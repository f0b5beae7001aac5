import TaskLine.Command
import TaskLine.Usage.Describe
import TaskLine.Settings.File
import TaskLine.Proofs.ParserLaws
import TaskLine.Proofs.TaskIdForms
import TaskLine.Proofs.FilterExtent
import TaskLine.Proofs.GrammarForms
import TaskLine.Proofs.DispatchOrder
import TaskLine.Proofs.DispatchScan
import TaskLine.Proofs.OverlongNumerals
import TaskLine.Proofs.WrittenIds
import TaskLine.Proofs.WrittenFilters
import TaskLine.Proofs.WrittenModifications
import TaskLine.Proofs.WrittenSubcommands
import TaskLine.Proofs.Openings
import TaskLine.Proofs.LaterArguments
import TaskLine.Proofs.LeftoverCut
import TaskLine.Proofs.AssembledParsers
import TaskLine.Proofs.DescribedForms
import TaskLine.Proofs.EntryPoints
import TaskLine.Proofs.FilterSelection
import TaskLine.Proofs.ModificationAccount
import TaskLine.Proofs.KeywordSequences
import TaskLine.Proofs.AcceptedIds
import TaskLine.Proofs.Repetition
import TaskLine.Proofs.PrintedIds
import TaskLine.Proofs.IdSpellings
import TaskLine.Proofs.HelpSwitch
import TaskLine.Proofs.TruthfulLog
import TaskLine.Proofs.QuotedOutput
import TaskLine.Proofs.UsageRuns
import TaskLine.Proofs.SettingsFiles

