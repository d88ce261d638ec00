import HostsBlock.Main
import HostsBlock.Files.Tree
import HostsBlock.Template.Filter
import HostsBlock.Proofs.Octets
import HostsBlock.Proofs.Keyed
import HostsBlock.Proofs.Extraction
import HostsBlock.Proofs.Blocks
import HostsBlock.Proofs.SubnetReport
import HostsBlock.Proofs.HostEntries
import HostsBlock.Proofs.Isolation
import HostsBlock.Proofs.Separation
import HostsBlock.Proofs.PlayHosts
import HostsBlock.Proofs.BlankFree
import HostsBlock.Proofs.Words
import HostsBlock.Proofs.ReadBack
import HostsBlock.Proofs.Provenance
import HostsBlock.Proofs.Groups
import HostsBlock.Proofs.Grammar
import HostsBlock.Proofs.Viewers
import HostsBlock.Proofs.Malformed
import HostsBlock.Proofs.Halves
import HostsBlock.Proofs.BalancerSections
import HostsBlock.Proofs.Rewording
import HostsBlock.Proofs.OlderNames
import HostsBlock.Proofs.SettingsLayers
import HostsBlock.Proofs.Overrides
import HostsBlock.Proofs.YamlPlaces
import HostsBlock.Proofs.YamlPlain
import HostsBlock.Proofs.YamlQuoted
import HostsBlock.Proofs.YamlBlocks
import HostsBlock.Proofs.YamlSteps
import HostsBlock.Proofs.YamlTokens
import HostsBlock.Proofs.YamlLines
import HostsBlock.Proofs.YamlReports
import HostsBlock.Proofs.YamlValues
import HostsBlock.Proofs.Runs
import HostsBlock.Proofs.ViewerNames
import HostsBlock.Proofs.Membership
import HostsBlock.Proofs.FilteredView
import HostsBlock.Proofs.RecordRuns
import HostsBlock.Proofs.DatabaseFlags
import HostsBlock.Proofs.Newcomers
import HostsBlock.Proofs.RoleNames
import HostsBlock.Proofs.Merging
import HostsBlock.Proofs.Columns
import HostsBlock.Proofs.Tiers
import HostsBlock.Proofs.InstanceNumbers
