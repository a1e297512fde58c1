import DebugLaunch.Main
import DebugLaunch.Proofs.TokenSegments
import DebugLaunch.Proofs.TokenLines
import DebugLaunch.Proofs.PercentDivision
import DebugLaunch.Proofs.PreparedFile
import DebugLaunch.Proofs.RepeatedPreparation
import DebugLaunch.Proofs.PrintedTemplate
import DebugLaunch.Proofs.Diagnostics
import DebugLaunch.Proofs.ReportedFaults
import DebugLaunch.Proofs.AliasLookup
import DebugLaunch.Proofs.DocumentBytes
import DebugLaunch.Proofs.SettingsEnding
import DebugLaunch.Proofs.SettingsFindings
import DebugLaunch.Proofs.CommandWords
import DebugLaunch.Proofs.OverridingCommand
import DebugLaunch.Proofs.ProgramEnding
import DebugLaunch.Proofs.LaunchStart
import DebugLaunch.Proofs.UntouchedFiles
import DebugLaunch.Proofs.DollarReferences
import DebugLaunch.Proofs.CopiedTemplate
import DebugLaunch.Proofs.IndependentPreparations
import DebugLaunch.Proofs.OptionSources
import DebugLaunch.Proofs.ProcessEnvironment
import DebugLaunch.Proofs.DamagedBytes
import DebugLaunch.Proofs.TemplateReading
import DebugLaunch.Proofs.NamesIgnoringCase
import DebugLaunch.Proofs.DollarDivision
import DebugLaunch.Proofs.TokenPrecedence
import DebugLaunch.Proofs.PortablePaths
import DebugLaunch.Proofs.ProjectNames
import DebugLaunch.Proofs.PathSpelling
import DebugLaunch.Proofs.NormalPaths
import DebugLaunch.Proofs.RootForms
import DebugLaunch.Proofs.BlankProjects
import DebugLaunch.Proofs.CandidateRows
import DebugLaunch.Proofs.TableLayout
import DebugLaunch.Proofs.VerbatimMarkup
import DebugLaunch.Proofs.PrintedTables
import DebugLaunch.Proofs.ListedValues
