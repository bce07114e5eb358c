import Cmk.Workflow.Cleanup
import Cmk.Admission
import Cmk.Races
import Cmk.Jobs.Status
import Cmk.Jobs.Cancel
import Cmk.Jobs.Rotation
import Cmk.Jobs.Claims
import Cmk.Jobs.Overwrites
import Cmk.Keys.FirstKey
import Cmk.Keys.Deletion
import Cmk.Keys.Pool
import Cmk.Authz.Reload
import Cmk.Cache
import Cmk.Mapper
import Cmk.Sanitise.Any
import Cmk.Sanitise.Text
import Cmk.Odata.Equality
import Cmk.Keys.Listing
import Cmk.Workflow.Eligibility
import Cmk.Workflow.Offers
import Cmk.Keys.Latest
import Cmk.Keys.CryptoPatch
import Cmk.Registry.Systems
import Cmk.Async.FanOut
import Cmk.Workflow.Expiry
import Cmk.Operator.Terminate
import Cmk.Tenant.WorkflowSettings
import Cmk.Jobs.KeyTasks
import Cmk.Workflow.Assignment
import Cmk.Jobs.ErrorTexts
