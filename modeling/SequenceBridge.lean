import SequenceBridge.Main
import SequenceBridge.Proofs.Argument.Calls
import SequenceBridge.Proofs.Argument.FlatList
import SequenceBridge.Proofs.Argument.Position
import SequenceBridge.Proofs.Argument.Sequence
import SequenceBridge.Proofs.CommandLine.DefaultDictionary
import SequenceBridge.Proofs.CommandLine.Stages
import SequenceBridge.Proofs.Comment.Unescaping
import SequenceBridge.Proofs.Dictionary.Duplicates
import SequenceBridge.Proofs.Dictionary.RoundTrip
import SequenceBridge.Proofs.Duration.Classification
import SequenceBridge.Proofs.Duration.Digits
import SequenceBridge.Proofs.Duration.NormalForm
import SequenceBridge.Proofs.Duration.Written
import SequenceBridge.Proofs.Export.Dictionary
import SequenceBridge.Proofs.Export.Lines
import SequenceBridge.Proofs.Export.ReadPath
import SequenceBridge.Proofs.Export.Relocation
import SequenceBridge.Proofs.Import.FixedPoints
import SequenceBridge.Proofs.Tree.RoundTrip
import SequenceBridge.Proofs.CommandLine.Help
