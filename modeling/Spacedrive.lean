import Spacedrive.Uuid
import Spacedrive.Channel
import Spacedrive.CustomUri.StdPath
import Spacedrive.CustomUri.Serving
import Spacedrive.CustomUri.Thumbnail
import Spacedrive.CustomUri.Mime
import Spacedrive.CustomUri.File
import Spacedrive.CustomUri.Router
import Spacedrive.Location.Watcher
import Spacedrive.Mobile.CoreMsg
import Spacedrive.Mobile.NodeInit
import Spacedrive.Mobile.EventListener
import Spacedrive.Jobs.Reports
import Spacedrive.Jobs.ReportOrder
import Spacedrive.Jobs.ReportQuery
import Spacedrive.Jobs.EventBus
import Spacedrive.Jobs.Progress
