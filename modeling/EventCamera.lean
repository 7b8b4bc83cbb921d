import EventCamera.Bytes.Sink
import EventCamera.Bytes.Source
import EventCamera.Bytes.Utf8
import EventCamera.Calendar
import EventCamera.Command.Decode
import EventCamera.Command.Encode
import EventCamera.Command.Failure
import EventCamera.Command.Generate
import EventCamera.Command.Grammar
import EventCamera.Command.Help
import EventCamera.Command.Info
import EventCamera.Command.Invocation
import EventCamera.Command.Log
import EventCamera.Command.Report
import EventCamera.Command.Run
import EventCamera.Command.Storage
import EventCamera.Csv.FieldOrder
import EventCamera.Csv.Reader
import EventCamera.Csv.Writer
import EventCamera.Event
import EventCamera.Evt3.Decoding
import EventCamera.Evt3.Encoding
import EventCamera.Evt3.Payload
import EventCamera.Evt3.TimeBase
import EventCamera.Evt3.Word
import EventCamera.Geometry
import EventCamera.Header.Basic
import EventCamera.Header.Read
import EventCamera.Header.Render
import EventCamera.Header.Resolution
import EventCamera.Loop
import EventCamera.Main
import EventCamera.Notice
import EventCamera.PayloadFormat
import EventCamera.Random.ChaCha
import EventCamera.Random.Draw
import EventCamera.Random.Events
import EventCamera.Recording.File
import EventCamera.Recording.Reader
import EventCamera.Recording.Writer
import EventCamera.Search
import EventCamera.Text.AlphanumericTable
import EventCamera.Text.CaseTable
import EventCamera.Text.HiddenTable
import EventCamera.Text.Lower
import EventCamera.Text.Numeral
import EventCamera.Text.Padded
import EventCamera.Text.Quoted
import EventCamera.Text.Split
import EventCamera.Text.Trim
import EventCamera.Window
import EventCamera.Proofs.Batch
import EventCamera.Proofs.Bytes.Sink
import EventCamera.Proofs.Bytes.Source
import EventCamera.Proofs.Evt3.Chunks
import EventCamera.Proofs.Evt3.Drift
import EventCamera.Proofs.Evt3.Fields
import EventCamera.Proofs.Evt3.Reencoding
import EventCamera.Proofs.Evt3.Resumption
import EventCamera.Proofs.Evt3.Tracking
import EventCamera.Proofs.Header.Lines
import EventCamera.Proofs.Header.Reading
import EventCamera.Proofs.Recording.Calls
import EventCamera.Proofs.Recording.Conservation
import EventCamera.Proofs.Recording.Lossless
import EventCamera.Proofs.Recording.Playing
import EventCamera.Proofs.Recording.Windows
import EventCamera.Proofs.Recording.Writing
import EventCamera.Proofs.Window
import EventCamera.Proofs.Evt3.Failures
import EventCamera.Proofs.Evt3.HeldWords
import EventCamera.Proofs.Evt3.Remainder
import EventCamera.Proofs.Evt3.Positions
import EventCamera.Proofs.Csv.Writing
import EventCamera.Proofs.Csv.Reading
import EventCamera.Proofs.Command.Files
import EventCamera.Proofs.Command.Tables
import EventCamera.Proofs.Command.Arguments
import EventCamera.Proofs.Command.RoundTrip
import EventCamera.Proofs.Evt3.Emissions
import EventCamera.Proofs.Evt3.Regressions
import EventCamera.Proofs.Recording.Progress
import EventCamera.Proofs.Recording.Triggers
import EventCamera.Proofs.Evt3.Changes
import EventCamera.Proofs.Evt3.VectorGroups
import EventCamera.Proofs.Calendar
import EventCamera.Proofs.Header.Rewriting
import EventCamera.Proofs.Header.Framing
import EventCamera.Proofs.Header.Extent
import EventCamera.Proofs.Header.LineOrder
import EventCamera.Proofs.Recording.Boundary
import EventCamera.Proofs.Recording.Interruptions
import EventCamera.Proofs.Recording.FullSink
import EventCamera.Proofs.Dividing
import EventCamera.Proofs.Csv.Stepwise
import EventCamera.Proofs.Csv.Lines
import EventCamera.Proofs.Csv.RoundTrip
import EventCamera.Proofs.Csv.Faults
import EventCamera.Proofs.Random.Chunks
