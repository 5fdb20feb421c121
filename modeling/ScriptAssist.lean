import ScriptAssist.Json.Key
import ScriptAssist.Main
import ScriptAssist.Proofs.AcceptedRecords
import ScriptAssist.Proofs.ActionResolution
import ScriptAssist.Proofs.AliasChoice
import ScriptAssist.Proofs.ArgumentBlock
import ScriptAssist.Proofs.BlankCells
import ScriptAssist.Proofs.BlockShift
import ScriptAssist.Proofs.BracketMatching
import ScriptAssist.Proofs.CheckedActions
import ScriptAssist.Proofs.CursorLine
import ScriptAssist.Proofs.EchoedBlocks
import ScriptAssist.Proofs.FailedReload
import ScriptAssist.Proofs.FlagCompletion
import ScriptAssist.Proofs.FlagPlace
import ScriptAssist.Proofs.InnerBlocks
import ScriptAssist.Proofs.JoinedLines
import ScriptAssist.Proofs.LineBreaks
import ScriptAssist.Proofs.LiteralPattern
import ScriptAssist.Proofs.LiteralWords
import ScriptAssist.Proofs.Locality
import ScriptAssist.Proofs.LookupsInRange
import ScriptAssist.Proofs.MacroFlags
import ScriptAssist.Proofs.NegativeColumn
import ScriptAssist.Proofs.ParameterTables
import ScriptAssist.Proofs.ReloadErrors
import ScriptAssist.Proofs.SectionPartition
import ScriptAssist.Proofs.SectionRun
import ScriptAssist.Proofs.ServerAndCommand
import ScriptAssist.Proofs.Session
import ScriptAssist.Proofs.SnippetFamilies
import ScriptAssist.Proofs.SnippetNames
import ScriptAssist.Server.Basic
