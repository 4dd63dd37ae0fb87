import FabEdge.Go.Regexp
import FabEdge.Go.Net.IP
import FabEdge.Go.Net.Parse
import FabEdge.Go.Runtime
import FabEdge.Go.Jitter
import FabEdge.Net.Block
import FabEdge.Net.CIDRText
import FabEdge.Net.IPv4Syntax
import FabEdge.Net.IPv6Text
import FabEdge.Operator.Options
import FabEdge.Operator.ClusterName
import FabEdge.Operator.SubnetOverlap
import FabEdge.Operator.Validate
import FabEdge.Operator.Startup
import FabEdge.Operator.Complete
import FabEdge.Operator.Controllers
import FabEdge.Operator.APIServer
import FabEdge.Connector.Manager
