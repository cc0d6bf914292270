import MeshController.AdvertInterval
import MeshController.AuthToken
import MeshController.BrokerPublishing
import MeshController.BrokerStatuses
import MeshController.CliAdd
import MeshController.CliOutcome
import MeshController.ClientConvergence
import MeshController.ConfigFile
import MeshController.ContactCompleteness
import MeshController.ControlPayload
import MeshController.DeleteConfirmation
import MeshController.EditorIndexing
import MeshController.FirstSightings
import MeshController.FrozenView
import MeshController.KeyLetterCase
import MeshController.LiveReload
import MeshController.MeshIndicator
import MeshController.MqttStatusAgreement
import MeshController.OutlineDeletion
import MeshController.OutlineInsertion
import MeshController.PopupAnswers
import MeshController.PublishedPackets
import MeshController.RegionConfirmation
import MeshController.RegionMatching
import MeshController.RegionPreorder
import MeshController.RegistryUniqueness
import MeshController.ReloadSignals
import MeshController.ReplyWaits
import MeshController.RestartWarnings
import MeshController.RetainedStatus
import MeshController.SingleInstance
import MeshController.SocketMessages
import MeshController.StatusKeys
import MeshController.TelemetryCursor
import MeshController.TelemetryTruncation
import MeshController.TokenRefresh
import MeshController.UiBridge
import MeshController.WizardRerun
