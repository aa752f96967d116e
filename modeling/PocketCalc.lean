import PocketCalc.Main
import PocketCalc.Proofs.Expression.Rendering
import PocketCalc.Proofs.Expression.UnknownSymbols
import PocketCalc.Proofs.Expression.OneMoreOperation
import PocketCalc.Proofs.Number.DisplayForm
import PocketCalc.Proofs.Keypad.Alphabet
import PocketCalc.Proofs.Keypad.Answer
import PocketCalc.Proofs.Keypad.AuditTrail
import PocketCalc.Proofs.Keypad.EqualsMidway
import PocketCalc.Proofs.Keypad.FailedDisplay
import PocketCalc.Proofs.Keypad.Faults
import PocketCalc.Proofs.Keypad.HistoryInert
import PocketCalc.Proofs.Keypad.MinusKeys
import PocketCalc.Proofs.Keypad.SignChangeTwice
import PocketCalc.Proofs.Script.FileAndKeyboard
import PocketCalc.Proofs.Script.Container
import PocketCalc.Proofs.Script.Transcript
import PocketCalc.Proofs.Script.TranscriptPath
import PocketCalc.Proofs.CommandLine.Unreported
import PocketCalc.Proofs.CommandLine.AllOrNothing
import PocketCalc.Proofs.CommandLine.LogLevel
