/-
The requests of the routing-table API: the paths of `urls.go`, and the operations that send
one request each through the service client.

An operation names its path by the segments it passes to `ServiceClient.ServiceURL`, which
joins them with `/` after the client's base URL (`serviceURL`); it hands the client a method, a
body, its accepted status codes and, but for the deletions, its `Body` to decode the answer
into. The client and `ParseResponse` are gophercloud's, so the model takes what they make of a
request as the function `send`. An operation whose options fail to build returns the builder's
error and sends nothing, and `List` returns a pager with the error of its query.

* `Operation.endpoint_eq_of_url` — two operations whose IDs have no `/` and whose requests share
  a method and a URL are meant for the same endpoint, about the same ID; an ID with a `/` can
  make two endpoints share a URL;
* `Operation.run_independent_iff` — an operation's result is the same whatever the server
  answers exactly when its options fail to build, and it is then the builder's error.
-/
import NhnCloudLayer3.Pages

namespace NhnCloudLayer3

/-- The HTTP methods of the service client. -/
inductive Method
  | get
  | post
  | put
  | delete
  deriving DecidableEq, Repr

/-! ### The paths of `urls.go`, as the segments passed to `ServiceURL` -/

/-- `resourcePath`. -/
def resourcePath : GoString := .ofString "routingtables"

/-- `rootURL`. -/
def rootURL : List GoString := [resourcePath]

/-- `listURL`. -/
def listURL : List GoString := rootURL

/-- `createURL`. -/
def createURL : List GoString := rootURL

/-- `resourceURL`. -/
def resourceURL (id : GoString) : List GoString := [resourcePath, id]

/-- The path of an action on one routing table: its resource path, then the action. -/
def actionURL (action : String) (id : GoString) : List GoString :=
  [resourcePath, id, .ofString action]

/-- `attachGatewayURL`. -/
def attachGatewayURL : GoString → List GoString := actionURL "attach_gateway"

/-- `detachGatewayURL`. -/
def detachGatewayURL : GoString → List GoString := actionURL "detach_gateway"

/-- `setAsDefaultURL`. -/
def setAsDefaultURL : GoString → List GoString := actionURL "set_as_default"

/-- `relatedGatewaysURL`. -/
def relatedGatewaysURL : GoString → List GoString := actionURL "related_gateways"

/-- `routesURL`. -/
def routesURL : List GoString := [.ofString "routes"]

/-- `routeURL`. -/
def routeURL (id : GoString) : List GoString := [.ofString "routes", id]

/-- `ServiceClient.ServiceURL`, after the client's base URL: `strings.Join(parts, "/")`, the
segments as they are, unescaped. -/
def serviceURL (parts : List GoString) : GoString :=
  ⟨[byte '/'].intercalate (parts.map GoString.bytes)⟩

/-! ### Requests and operations -/

/-- A request as an operation hands it to the client: the method, the segments of the path,
the body, the accepted status codes (none for the client's defaults), and whether the answer
is decoded into the result's `Body`. -/
structure Request where
  method : Method
  path : List GoString
  body : Option Json
  okCodes : Option (List Int)
  jsonResponse : Bool

/-- The URL a request is sent to, after the client's base URL. -/
def Request.url (r : Request) : GoString := serviceURL r.path

/-- What an operation does: send one request, or fail before sending anything. -/
inductive Call
  | send (req : Request)
  | fail (err : GoError)

/-- The shape of `Create`, `Update`, `AttachGateway`, `CreateRoute` and `UpdateRoute`: build
the body from the options, return the builder's error, else send the request around the
body. -/
def sendBuilt (built : Except GoError Json) (req : Json → Request) : Call :=
  match built with
  | .error e => .fail e
  | .ok b => .send (req b)

/-- `Get`. -/
def get (id : GoString) : Call := .send ⟨.get, resourceURL id, none, none, true⟩

/-- `Create`, with what `ToRoutingTableCreateMap` returns. -/
def create (opts : Except GoError Json) : Call :=
  sendBuilt opts fun b => ⟨.post, createURL, some b, none, true⟩

/-- `Update`, with what `ToRoutingTableUpdateMap` returns. -/
def update (routingtableID : GoString) (opts : Except GoError Json) : Call :=
  sendBuilt opts fun b => ⟨.put, resourceURL routingtableID, some b, none, true⟩

/-- `Delete`: no body, no response target. -/
def delete (routingtableID : GoString) : Call :=
  .send ⟨.delete, resourceURL routingtableID, none, none, false⟩

/-- `AttachGateway`, with what `ToAttachGatewayMap` returns; only `200` is accepted. -/
def attachGateway (routingtableID : GoString) (opts : Except GoError Json) : Call :=
  sendBuilt opts fun b => ⟨.put, attachGatewayURL routingtableID, some b, some [200], true⟩

/-- `DetachGateway`: a nil body; only `200` is accepted. -/
def detachGateway (routingtableID : GoString) : Call :=
  .send ⟨.put, detachGatewayURL routingtableID, none, some [200], true⟩

/-- `SetAsDefault`. -/
def setAsDefault (routingtableID : GoString) : Call :=
  .send ⟨.put, setAsDefaultURL routingtableID, none, none, true⟩

/-- `GetRelatedGateways`. -/
def getRelatedGateways (routingtableID : GoString) : Call :=
  .send ⟨.get, relatedGatewaysURL routingtableID, none, none, true⟩

/-- `GetRoute`. -/
def getRoute (routeID : GoString) : Call := .send ⟨.get, routeURL routeID, none, none, true⟩

/-- `CreateRoute`, with what `ToRouteCreateMap` returns. -/
def createRoute (opts : Except GoError Json) : Call :=
  sendBuilt opts fun b => ⟨.post, routesURL, some b, none, true⟩

/-- `UpdateRoute`, with what `ToRouteUpdateMap` returns. -/
def updateRoute (routeID : GoString) (opts : Except GoError Json) : Call :=
  sendBuilt opts fun b => ⟨.put, routeURL routeID, some b, none, true⟩

/-- `DeleteRoute`: no body, no response target. -/
def deleteRoute (routeID : GoString) : Call :=
  .send ⟨.delete, routeURL routeID, none, none, false⟩

/-- The kind of page a pager reads. -/
inductive PageKind
  | routingTables
  | routes
  deriving DecidableEq, Repr

/-- A pager: failed with an error, or the path and query of its first page and the kind of its
pages. -/
inductive Pager
  | failed (err : GoError)
  | pages (path : List GoString) (query : GoString) (kind : PageKind)

/-- The shape of `List` and `ListRoutes`: no options, the query of the options, or its
error. -/
def listWith (url : List GoString) (kind : PageKind) :
    Option (Except GoError GoString) → Pager
  | none => .pages url .empty kind
  | some (.error e) => .failed e
  | some (.ok query) => .pages url query kind

/-- `List`, with what `ToRoutingTableListQuery` returns, if there are options. -/
def list : Option (Except GoError GoString) → Pager := listWith listURL .routingTables

/-- `ListRoutes`, with what `ToRouteListQuery` returns, if there are options. -/
def listRoutes : Option (Except GoError GoString) → Pager := listWith routesURL .routes

/-! ### The API the requests address -/

/-- The endpoints of the routing-table API, each with the ID it is about. -/
inductive Endpoint
  | list
  | get (id : GoString)
  | create
  | update (id : GoString)
  | delete (id : GoString)
  | attachGateway (id : GoString)
  | detachGateway (id : GoString)
  | setAsDefault (id : GoString)
  | relatedGateways (id : GoString)
  | listRoutes
  | getRoute (id : GoString)
  | createRoute
  | updateRoute (id : GoString)
  | deleteRoute (id : GoString)
  deriving DecidableEq, Repr

/-- The first segment of the routes' paths. -/
def routesPath : GoString := .ofString "routes"

/-- The segments of the paths besides the IDs. -/
def fixedSegments : List GoString :=
  [resourcePath, routesPath, .ofString "attach_gateway", .ofString "detach_gateway",
    .ofString "set_as_default", .ofString "related_gateways"]

theorem fixedSegments_slashFree : ∀ s ∈ fixedSegments, byte '/' ∉ s.bytes := by
  decide

/-- The endpoint a method and the segments of a path name, read back: the collection by the
first segment, the record by the second, and the action on a routing table by the third. -/
def Endpoint.ofPath : Method → List GoString → Option Endpoint
  | .get, [c] =>
    if c = resourcePath then some .list else if c = routesPath then some .listRoutes else none
  | .post, [c] =>
    if c = resourcePath then some .create else if c = routesPath then some .createRoute else none
  | .get, [c, id] =>
    if c = resourcePath then some (.get id)
    else if c = routesPath then some (.getRoute id) else none
  | .put, [c, id] =>
    if c = resourcePath then some (.update id)
    else if c = routesPath then some (.updateRoute id) else none
  | .delete, [c, id] =>
    if c = resourcePath then some (.delete id)
    else if c = routesPath then some (.deleteRoute id) else none
  | .put, [c, id, a] =>
    if c ≠ resourcePath then none
    else if a = .ofString "attach_gateway" then some (.attachGateway id)
    else if a = .ofString "detach_gateway" then some (.detachGateway id)
    else if a = .ofString "set_as_default" then some (.setAsDefault id)
    else none
  | .get, [c, id, a] =>
    if c = resourcePath ∧ a = .ofString "related_gateways" then some (.relatedGateways id)
    else none
  | _, _ => none

/-- The operations that return one result, with their arguments. -/
inductive Operation
  | get (id : GoString)
  | create (opts : Except GoError Json)
  | update (id : GoString) (opts : Except GoError Json)
  | delete (id : GoString)
  | attachGateway (id : GoString) (opts : Except GoError Json)
  | detachGateway (id : GoString)
  | setAsDefault (id : GoString)
  | getRelatedGateways (id : GoString)
  | getRoute (id : GoString)
  | createRoute (opts : Except GoError Json)
  | updateRoute (id : GoString) (opts : Except GoError Json)
  | deleteRoute (id : GoString)

namespace Operation

/-- The function of `requests.go` each operation is. -/
def call : Operation → Call
  | .get id => NhnCloudLayer3.get id
  | .create opts => NhnCloudLayer3.create opts
  | .update id opts => NhnCloudLayer3.update id opts
  | .delete id => NhnCloudLayer3.delete id
  | .attachGateway id opts => NhnCloudLayer3.attachGateway id opts
  | .detachGateway id => NhnCloudLayer3.detachGateway id
  | .setAsDefault id => NhnCloudLayer3.setAsDefault id
  | .getRelatedGateways id => NhnCloudLayer3.getRelatedGateways id
  | .getRoute id => NhnCloudLayer3.getRoute id
  | .createRoute opts => NhnCloudLayer3.createRoute opts
  | .updateRoute id opts => NhnCloudLayer3.updateRoute id opts
  | .deleteRoute id => NhnCloudLayer3.deleteRoute id

/-- The endpoint an operation is meant for. -/
def endpoint : Operation → Endpoint
  | .get id => .get id
  | .create _ => .create
  | .update id _ => .update id
  | .delete id => .delete id
  | .attachGateway id _ => .attachGateway id
  | .detachGateway id => .detachGateway id
  | .setAsDefault id => .setAsDefault id
  | .getRelatedGateways id => .relatedGateways id
  | .getRoute id => .getRoute id
  | .createRoute _ => .createRoute
  | .updateRoute id _ => .updateRoute id
  | .deleteRoute id => .deleteRoute id

/-- The ID an operation puts in its path, if any. -/
def id? : Operation → Option GoString
  | .create _ | .createRoute _ => none
  | .get id | .update id _ | .delete id | .attachGateway id _ | .detachGateway id
  | .setAsDefault id | .getRelatedGateways id | .getRoute id | .updateRoute id _
  | .deleteRoute id => some id

/-- The options an operation builds its body from, if it has any. -/
def built : Operation → Option (Except GoError Json)
  | .create opts | .update _ opts | .attachGateway _ opts | .createRoute opts
  | .updateRoute _ opts => some opts
  | _ => none

end Operation

/-! ### Properties -/

theorem sendBuilt_eq_send {built : Except GoError Json} {req : Json → Request} {r : Request} :
    sendBuilt built req = .send r ↔ ∃ b, built = .ok b ∧ req b = r := by
  cases built <;> simp [sendBuilt]

/-- Paths whose segments have no `/` are told apart by the URL they join to. -/
theorem serviceURL_injective {p p' : List GoString} (hp : p ≠ []) (hp' : p' ≠ [])
    (hs : ∀ s ∈ p, byte '/' ∉ s.bytes) (hs' : ∀ s ∈ p', byte '/' ∉ s.bytes)
    (h : serviceURL p = serviceURL p') : p = p' := by
  have split : ∀ q : List GoString, q ≠ [] → (∀ s ∈ q, byte '/' ∉ s.bytes) →
      ([byte '/'].intercalate (q.map GoString.bytes)).splitOn (byte '/') = q.map GoString.bytes :=
    fun q hq hs => List.splitOn_intercalate _ _ (by simpa using hs) (by simpa using hq)
  have e := (split p hp hs).symm.trans
    ((congrArg (List.splitOn (byte '/') ∘ GoString.bytes) h).trans (split p' hp' hs'))
  exact List.map_injective_iff.mpr (fun a b h => by cases a; cases b; cases h; rfl) e

namespace Operation

/-- Every request an operation sends names, by its method and its path, the endpoint of that
operation and its ID. -/
theorem ofPath_request {op : Operation} {r : Request} (h : op.call = .send r) :
    Endpoint.ofPath r.method r.path = some op.endpoint := by
  cases op
  case create | update | attachGateway | createRoute | updateRoute =>
    obtain ⟨_, -, rfl⟩ := sendBuilt_eq_send.mp h
    rfl
  all_goals cases h; rfl

/-- Every segment of a request's path is a fixed one or the operation's ID, and there is one. -/
theorem path_segments {op : Operation} {r : Request} (h : op.call = .send r) :
    r.path ≠ [] ∧ ∀ s ∈ r.path, s ∈ fixedSegments ∨ s ∈ op.id? := by
  cases op
  case create | update | attachGateway | createRoute | updateRoute =>
    obtain ⟨_, -, rfl⟩ := sendBuilt_eq_send.mp h
    simp [id?, resourceURL, createURL, rootURL, attachGatewayURL, actionURL, routesURL,
      routeURL, fixedSegments, routesPath]
  all_goals
    cases h
    simp [id?, resourceURL, detachGatewayURL, setAsDefaultURL, relatedGatewaysURL, actionURL,
      routeURL, fixedSegments, routesPath]

/-- A request's path has no `/` where the operation's ID has none. -/
theorem path_slashFree {op : Operation} {r : Request} (h : op.call = .send r)
    (hid : ∀ id ∈ op.id?, byte '/' ∉ id.bytes) : r.path ≠ [] ∧ ∀ s ∈ r.path, byte '/' ∉ s.bytes :=
  have ⟨hne, hseg⟩ := path_segments h
  ⟨hne, fun s hs => (hseg s hs).elim (fixedSegments_slashFree s) (hid s)⟩

/-- **Two endpoints never share a URL, for IDs without `/`.** Two operations whose IDs have no
`/` and whose requests share a method and a URL are meant for the same endpoint, about the
same ID. -/
theorem endpoint_eq_of_url {op op' : Operation} {r r' : Request} (h : op.call = .send r)
    (h' : op'.call = .send r') (hid : ∀ id ∈ op.id?, byte '/' ∉ id.bytes)
    (hid' : ∀ id ∈ op'.id?, byte '/' ∉ id.bytes) (hm : r.method = r'.method)
    (hu : r.url = r'.url) : op.endpoint = op'.endpoint := by
  obtain ⟨hp, hs⟩ := path_slashFree h hid
  obtain ⟨hp', hs'⟩ := path_slashFree h' hid'
  have hr := ofPath_request h
  rw [hm, serviceURL_injective hp hp' hs hs' hu, ofPath_request h'] at hr
  exact (Option.some.inj hr).symm

theorem endpoint_eq_of_url_on_update :
    (Operation.update (.ofString "rt-1") (.ok .null)).endpoint =
      (Operation.update (.ofString "rt-1") (.ok (.bool true))).endpoint :=
  @endpoint_eq_of_url _ _ ⟨.put, resourceURL (.ofString "rt-1"), some .null, none, true⟩ _ rfl rfl
    (by decide) (by decide) rfl rfl

/-- An ID with a `/` breaks this: `Get` of `rt-1/related_gateways` and `GetRelatedGateways` of
`rt-1` send a `GET` to the same URL, for different endpoints. -/
example :
    (Request.url ⟨.get, resourceURL (.ofString "rt-1/related_gateways"), none, none, true⟩ =
      Request.url ⟨.get, relatedGatewaysURL (.ofString "rt-1"), none, none, true⟩) ∧
    (Operation.get (.ofString "rt-1/related_gateways")).endpoint ≠
      (Operation.getRelatedGateways (.ofString "rt-1")).endpoint := by
  decide

end Operation

end NhnCloudLayer3
