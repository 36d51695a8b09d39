import LinkConfig.Config.Capture
import LinkConfig.Config.Commit
import LinkConfig.Config.History
import LinkConfig.Config.Intent
import LinkConfig.Config.Path
import LinkConfig.Config.Report
import LinkConfig.Config.Snapshot
import LinkConfig.Platform.Memory
import LinkConfig.Setting.Declare
import LinkConfig.Proofs.EntryOrder
import LinkConfig.Proofs.SortedEntries
import LinkConfig.Proofs.EditEffects
import LinkConfig.Proofs.WellFormed
import LinkConfig.Proofs.Session
import LinkConfig.Proofs.InOrder
import LinkConfig.Proofs.Notification
import LinkConfig.Proofs.Withdrawal
import LinkConfig.Proofs.LeaseReports
import LinkConfig.Proofs.RepeatedReports
import LinkConfig.Proofs.Captured
import LinkConfig.Proofs.DefaultRoutes
import LinkConfig.Proofs.Forwarding
import LinkConfig.Proofs.ReadBack
import LinkConfig.Proofs.MergeGroups
import LinkConfig.Proofs.ReportOrder
import LinkConfig.Proofs.AddressText
import LinkConfig.Proofs.DocumentText
import LinkConfig.Proofs.Snapshots
import LinkConfig.Proofs.CidrText
import LinkConfig.Proofs.CaptureContents
import LinkConfig.Proofs.PublishedPaths
import LinkConfig.Proofs.SettingText
import LinkConfig.Proofs.TableOrder
import LinkConfig.Proofs.EntryKeys
import LinkConfig.Proofs.Replacements
import LinkConfig.Proofs.ExactReports
import LinkConfig.Proofs.RepeatedMerges
import LinkConfig.Proofs.Unions
import LinkConfig.Proofs.Remainders
import LinkConfig.Proofs.AppliedSettings
import LinkConfig.Proofs.Rebuilding
import LinkConfig.Proofs.InferredMethods
import LinkConfig.Proofs.EndlessLeases
import LinkConfig.Proofs.CoveredRoutes
import LinkConfig.Proofs.RefusedWrites
import LinkConfig.Proofs.FailedReads
import LinkConfig.Proofs.LastWrites
import LinkConfig.Proofs.ResolverText
import LinkConfig.Proofs.PrefixLengths
import LinkConfig.Proofs.LeadingBits
import LinkConfig.Proofs.AddressClasses
