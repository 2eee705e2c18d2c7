import DhcpRelay.Agent.Broadcast
import DhcpRelay.Agent.Dhcp6
import DhcpRelay.Command.Exchange
import DhcpRelay.Dhcp4.Compose
import DhcpRelay.Dhcp6.Compose
import DhcpRelay.Main
import DhcpRelay.Proofs.Agent.Accounting
import DhcpRelay.Proofs.Agent.Attempts
import DhcpRelay.Proofs.Agent.DeliveryPath6
import DhcpRelay.Proofs.Agent.Forwarding
import DhcpRelay.Proofs.Agent.LoopBound
import DhcpRelay.Proofs.Agent.OwnIdentity
import DhcpRelay.Proofs.Agent.ReplyPath
import DhcpRelay.Proofs.Agent.ReplyValidation
import DhcpRelay.Proofs.Command.Exchange
import DhcpRelay.Proofs.Configuration.Target
import DhcpRelay.Proofs.Dhcp4.OptionLookup
import DhcpRelay.Proofs.Dhcp4.RequestSize
import DhcpRelay.Proofs.Dhcp6.ClientAddress
import DhcpRelay.Proofs.Dhcp6.Codec
import DhcpRelay.Proofs.Guarded.Relay6
import DhcpRelay.Proofs.Net.Damage
import DhcpRelay.Proofs.OptionGrammar
import DhcpRelay.Proofs.Rollout.Checking
import DhcpRelay.Proofs.Rollout.Failure
import DhcpRelay.Proofs.Rollout.History
import DhcpRelay.Proofs.Rollout.Recovery
import DhcpRelay.Proofs.Rollout.Visibility
import DhcpRelay.Proofs.Servers.Difference
import DhcpRelay.Proofs.Servers.Emptying
import DhcpRelay.Proofs.Servers.Failure
import DhcpRelay.Proofs.Servers.History
import DhcpRelay.Proofs.Servers.Independence
import DhcpRelay.Proofs.Servers.Membership
import DhcpRelay.Topology.Kernel
import DhcpRelay.Topology.Sample
