import Hamlet.Lib.BackoffProofs
import Hamlet.Lib.CallerLoopProofs
import Hamlet.Lib.ConservationProofs
import Hamlet.Lib.EventRunProofs
import Hamlet.Lib.FairRunProofs
import Hamlet.Lib.FifoProofs
import Hamlet.Lib.GetOrCreateProofs
import Hamlet.Lib.HistoryProofs
import Hamlet.Lib.KeyedTableProofs
import Hamlet.Lib.MailboxProofs
import Hamlet.Lib.NoninterferenceProofs
import Hamlet.Lib.OverwriteProofs
import Hamlet.Lib.SenderLineProofs
import Hamlet.Lib.ServiceLineProofs
import Hamlet.Lib.SimulationProofs
import Hamlet.Lib.SplitProofs
import Hamlet.Lib.RustTextProofs
import Hamlet.Lib.IpTextProofs
import Hamlet.Lib.UnixPathProofs
import Hamlet.Lib.WaitForProofs
import Hamlet.ConfigProofs
import Hamlet.CloudGatewayProofs
import Hamlet.RegistryProofs
import Hamlet.BroadcastTopicProofs
import Hamlet.GatewayLinkProofs
import Hamlet.LiveLinkProofs
import Hamlet.EndpointProofs
import Hamlet.SupervisorProofs
import Hamlet.ServiceProofs
import Hamlet.InterleavingProofs
import Hamlet.SupervisorChannelProofs
import Hamlet.MqttChannelProofs
import Hamlet.RecoveryProofs
import Hamlet.StartupProofs
import Hamlet.KeyManagementProofs
import Hamlet.KeyLifecycleProofs
import Hamlet.BroadcastCycleProofs
import Hamlet.BroadcastTokenProofs
import Hamlet.BroadcastPacingProofs
import Hamlet.HandshakeProofs
import Hamlet.DeviceCertProofs
import Hamlet.DispatchProofs
import Hamlet.BrokerAddressProofs
import Hamlet.SubscriptionProofs
import Hamlet.AnnounceProofs
import Hamlet.DeadlockProofs
import Hamlet.PipelineProofs
import Hamlet.DrainProofs
import Hamlet.IdentityProofs
import Hamlet.WsUrlProofs
import Hamlet.GatewaySocketProofs
import Hamlet.RelayProofs
import Hamlet.GatewayMqttTaskProofs
import Hamlet.GatewayMqttDeliveryProofs
import Hamlet.TimeoutSweepProofs
import Hamlet.LoginProofs
import Hamlet.UrlGrammarProofs
import Hamlet.CredentialFlowProofs
