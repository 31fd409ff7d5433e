import NhnCloudLayer3.GoString
import NhnCloudLayer3.Json
import NhnCloudLayer3.Decode
import NhnCloudLayer3.Time
import NhnCloudLayer3.NhnCloudTime
import NhnCloudLayer3.Flexible
import NhnCloudLayer3.RoutingTable
import NhnCloudLayer3.Permissive
import NhnCloudLayer3.CreateTime
import NhnCloudLayer3.Extract
import NhnCloudLayer3.Pages
import NhnCloudLayer3.InternetGateway
import NhnCloudLayer3.Fallback
import NhnCloudLayer3.TimeFormat
import NhnCloudLayer3.ParsedTime
import NhnCloudLayer3.Encode
import NhnCloudLayer3.Errors
import NhnCloudLayer3.Requests
import NhnCloudLayer3.Transport
