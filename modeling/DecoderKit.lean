import DecoderKit.Json.Value
import DecoderKit.Command.PlainKit
import DecoderKit.Main
import DecoderKit.Proofs.Dump.ByteList
import DecoderKit.Proofs.Sweep
import DecoderKit.Proofs.LaterFault
import DecoderKit.Proofs.Dump.Joining
import DecoderKit.Proofs.Text.Hexadecimal
import DecoderKit.Proofs.Text.Lines
import DecoderKit.Proofs.Text.Numerals
import DecoderKit.Proofs.Text.Pieces
import DecoderKit.Proofs.Table.RowGrammar
import DecoderKit.Proofs.Trimmed
import DecoderKit.Proofs.Table.Block
import DecoderKit.Proofs.Table.Reading
import DecoderKit.Proofs.Table.Width
import DecoderKit.Proofs.Table.FaultLine
import DecoderKit.Proofs.Table.PlainRecords
import DecoderKit.Proofs.Table.ReadBack
import DecoderKit.Proofs.Table.StrictWriting
import DecoderKit.Proofs.Table.TwoForms
import DecoderKit.Proofs.Table.Joining
import DecoderKit.Proofs.Text.Respacing
import DecoderKit.Proofs.Table.Respacing
import DecoderKit.Json.Lexeme
import DecoderKit.Json.Layout
import DecoderKit.Json.Reader
import DecoderKit.Proofs.Json.Lexing
import DecoderKit.Proofs.Json.Reading
import DecoderKit.Proofs.Table.JsonRows
import DecoderKit.Proofs.Command.Input
import DecoderKit.Proofs.Command.Run
import DecoderKit.Proofs.Command.TableRun
import DecoderKit.Proofs.Text.Utf8
import DecoderKit.Proofs.Log.Reporting
import DecoderKit.Proofs.Log.PlainLog
import DecoderKit.Proofs.Corpus.Reporting
import DecoderKit.Proofs.Files.Resolution
import DecoderKit.Proofs.Files.PathOrder
import DecoderKit.Proofs.Corpus.Listing
import DecoderKit.Proofs.Corpus.Order
import DecoderKit.Proofs.Corpus.SplitBack
import DecoderKit.Proofs.Dump.HexString
import DecoderKit.Proofs.Command.DumpRun
import DecoderKit.Proofs.Dump.TwoSpellings
import DecoderKit.Proofs.Dump.Description
import DecoderKit.Proofs.Text.Quotation
import DecoderKit.Proofs.Corpus.Warnings
import DecoderKit.Proofs.Table.ColumnFault
import DecoderKit.Proofs.Command.StandardInput
import DecoderKit.Proofs.Command.Diagnostics
import DecoderKit.Proofs.Text.Unquoting
import DecoderKit.Proofs.FaultText
