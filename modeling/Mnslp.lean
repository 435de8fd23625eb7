import Mnslp.Lib.Machine
import Mnslp.Msg.Contents
import Mnslp.Msg.Forwarded
import Mnslp.Msg.ImportAgain
import Mnslp.Msg.ImportBounds
import Mnslp.Msg.ImportStep
import Mnslp.Msg.ImportTermination
import Mnslp.Msg.IpfixContent
import Mnslp.Msg.IpfixImport
import Mnslp.Msg.MnslpCodec
import Mnslp.Msg.MspecObjects
import Mnslp.Msg.ParseTotal
import Mnslp.Msg.RoundTrip
import Mnslp.Msg.Wire
import Mnslp.Session.AnsweredRefresh
import Mnslp.Session.Authorization
import Mnslp.Session.Direction
import Mnslp.Session.HopCount
import Mnslp.Session.InstalledOnce
import Mnslp.Session.Life
import Mnslp.Session.Lifetime
import Mnslp.Session.LifetimeAgreement
import Mnslp.Session.MeteringAgreement
import Mnslp.Session.NfStep
import Mnslp.Session.NiStep
import Mnslp.Session.NrStep
import Mnslp.Session.NullAsserts
import Mnslp.Session.OwnMessages
import Mnslp.Session.Retransmission
import Mnslp.Session.SessionTable
import Mnslp.Session.SharedObjects
import Mnslp.Session.StaleEvents
import Mnslp.Session.Teardown
import Mnslp.Session.TeardownComplete
import Mnslp.Session.Timers
import Mnslp.Session.LifetimeBound
import Mnslp.Session.PendingOrder
import Mnslp.Session.RefreshInterval
import Mnslp.Session.DefinedReturn
import Mnslp.Session.SelectObjects
import Mnslp.Session.ResentConfigure
import Mnslp.Session.ReplacedRule
import Mnslp.Lib.Rows
import Mnslp.Session.BoundedRetries
import Mnslp.Lib.Serial
import Mnslp.Session.OldRefresh
import Mnslp.Session.OneAnswer
import Mnslp.Session.SessionManager
import Mnslp.Msg.Framing
import Mnslp.Msg.InformationCode
import Mnslp.Msg.ObjectHeader
import Mnslp.Msg.IeStore
import Mnslp.Msg.DataRecord
import Mnslp.Msg.TemplateRecord
import Mnslp.Msg.UnknownElements
import Mnslp.Session.CollectedObjects
import Mnslp.Msg.TemplateFields
import Mnslp.Msg.FieldValue
import Mnslp.Installer.Removal
import Mnslp.Lib.Text
import Mnslp.Msg.Printing
import Mnslp.Msg.WriteBounds
import Mnslp.Installer.FilterCommand
import Mnslp.Lib.Grouping
import Mnslp.Msg.OutputSteps
import Mnslp.Msg.OptionTemplates
import Mnslp.Msg.OutputRun
import Mnslp.Msg.Built
import Mnslp.Msg.OutputBounds
import Mnslp.Msg.OutputContent
import Mnslp.Lib.Walk
import Mnslp.Msg.EqualityLaws
import Mnslp.Session.Isolation
import Mnslp.Installer.PolicyRule
import Mnslp.Installer.PolicyAction
import Mnslp.Installer.Check
import Mnslp.Installer.Install
import Mnslp.Installer.LoadActions
import Mnslp.Session.SoftState
import Mnslp.Session.BoundedTraffic
import Mnslp.Session.RefreshRound
import Mnslp.Msg.ImportMeaning
import Mnslp.Msg.OutputImport
import Mnslp.Session.SentObjects
import Mnslp.Session.Mapper
import Mnslp.Lib.Enactment
import Mnslp.Session.Daemon
import Mnslp.Session.CarriedRound
