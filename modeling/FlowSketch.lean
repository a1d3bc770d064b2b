import FlowSketch.Analysis
import FlowSketch.ChartDot
import FlowSketch.FlowRecord
import FlowSketch.Metrics
import FlowSketch.SystemsEdit
import FlowSketch.Proofs.ChartReading
import FlowSketch.Proofs.ChartElements
import FlowSketch.Proofs.ChartScope
import FlowSketch.Proofs.ChartText
import FlowSketch.Proofs.ChartRuns
import FlowSketch.Proofs.ChartOutlets
import FlowSketch.Proofs.ChartBranches
import FlowSketch.Proofs.BlockAnchors
import FlowSketch.Proofs.BlockPrinting
import FlowSketch.Proofs.SystemsLines
import FlowSketch.Proofs.SystemsProgram
import FlowSketch.Proofs.SystemsLayout
import FlowSketch.Proofs.SystemsCuts
import FlowSketch.Proofs.SystemsRecovery
import FlowSketch.Proofs.SystemsStatements
import FlowSketch.Proofs.BlockBalance
import FlowSketch.Proofs.BlockParts
import FlowSketch.Proofs.LeavingSteps
import FlowSketch.Proofs.BlockNesting
import FlowSketch.Proofs.SwitchCases
import FlowSketch.Attempt
import FlowSketch.SystemsAttempt
import FlowSketch.BraceAttempt
import FlowSketch.AnalysisAttempt
import FlowSketch.Proofs.AttemptOutcomes
import FlowSketch.Proofs.SystemsPositions
import FlowSketch.Proofs.LexerHalting
import FlowSketch.Proofs.SystemsHalting
import FlowSketch.Proofs.BlockHalting
import FlowSketch.Proofs.AnalysisHalting
import FlowSketch.Proofs.ChartForm
import FlowSketch.Proofs.ChartEnds
import FlowSketch.Proofs.ChartSwitches
import FlowSketch.Proofs.StepLabels
import FlowSketch.Proofs.LiteralSteps
import FlowSketch.Proofs.BlockAgreement
import FlowSketch.Proofs.BlockStorage
import FlowSketch.Proofs.BlockPlaces
import FlowSketch.Proofs.BlockBraces
import FlowSketch.Proofs.BlockStrings
import FlowSketch.Proofs.FlattenedText
import FlowSketch.Proofs.FlowForm
import FlowSketch.Proofs.FlowNodes
import FlowSketch.Proofs.SummaryOutline
import FlowSketch.Proofs.MetricsEntries
import FlowSketch.Proofs.TextCuts
import FlowSketch.Proofs.IndentedTree
import FlowSketch.Proofs.MindmapTree
import FlowSketch.Proofs.SummaryLines
import FlowSketch.Proofs.BraceNodes
import FlowSketch.Proofs.OwnerReading
import FlowSketch.Proofs.UnbrokenTexts
import FlowSketch.Proofs.SummaryMarks
import FlowSketch.Proofs.SummaryRuns
import FlowSketch.Proofs.SystemsMatching
import FlowSketch.Proofs.SystemsLiterals
import FlowSketch.Proofs.CaseBreaks
import FlowSketch.Proofs.CommentFree
import FlowSketch.Proofs.CommentPieces
import FlowSketch.Proofs.SemicolonCuts
import FlowSketch.Proofs.CaseLabels
import FlowSketch.Proofs.ClauseGroups
import FlowSketch.Proofs.StatementSplits
import FlowSketch.Proofs.TokenLines
import FlowSketch.Proofs.LexerSeams
import FlowSketch.Proofs.RepeatedSteps
import FlowSketch.Proofs.RecordReading
import FlowSketch.Proofs.SystemsProgress
import FlowSketch.Proofs.SystemsCalls
import FlowSketch.Proofs.WrittenCalls
import FlowSketch.Proofs.EventCalls
import FlowSketch.Proofs.BracketPairs
import FlowSketch.Proofs.TextLimits
import FlowSketch.Proofs.SafeLabels
