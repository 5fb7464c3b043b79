import BasinRegister.Format.Standard
import BasinRegister.Paging.Listed
import BasinRegister.Storage.Memory
import BasinRegister.Storage.Relational
import BasinRegister.Storage.Seed
import BasinRegister.Service.Config
import BasinRegister.Service.Answer
import BasinRegister.Client.Run
import BasinRegister.Main
import BasinRegister.Proofs.Grouping
import BasinRegister.Proofs.Paging.AnyRows
import BasinRegister.Proofs.Cursor
import BasinRegister.Proofs.Paging.Walk
import BasinRegister.Proofs.Storage.Keyed
import BasinRegister.Proofs.Storage.Memory
import BasinRegister.Proofs.Glob.Agreement
import BasinRegister.Proofs.Record.SpecColumns
import BasinRegister.Proofs.Storage.Relational
import BasinRegister.Proofs.Storage.SameRecords
import BasinRegister.Proofs.Storage.SameAnswers
import BasinRegister.Proofs.Storage.Equivalence
import BasinRegister.Proofs.Format.Resolution
import BasinRegister.Proofs.Storage.SharedWalk
import BasinRegister.Proofs.Storage.ReadBack
import BasinRegister.Proofs.Service.Settings
import BasinRegister.Proofs.Storage.Effects
import BasinRegister.Proofs.Storage.Children
import BasinRegister.Proofs.Storage.Lookups
import BasinRegister.Proofs.Client.Listing
import BasinRegister.Proofs.Paging.Tokens
import BasinRegister.Proofs.Paging.Repeats
import BasinRegister.Proofs.Storage.Offsets
import BasinRegister.Proofs.Format.XmlRecords
import BasinRegister.Proofs.Format.XmlWellFormed
import BasinRegister.Proofs.Format.Catalog
import BasinRegister.Proofs.Format.DefaultType
import BasinRegister.Proofs.Storage.Seeding
import BasinRegister.Proofs.Json.RoundTrip
import BasinRegister.Proofs.Format.JsonDocument
import BasinRegister.Proofs.Storage.LoadOrder
import BasinRegister.Proofs.Service.NextPage
import BasinRegister.Proofs.Service.Outcomes
import BasinRegister.Proofs.Client.Resume
import BasinRegister.Proofs.Cursor.Repair
import BasinRegister.Proofs.Grouping.Flattening
import BasinRegister.Proofs.Record.SpecReading
import BasinRegister.Proofs.Record.SpecRoundTrip
import BasinRegister.Proofs.Glob.Meaning
import BasinRegister.Proofs.Format.DelimitedReading
import BasinRegister.Proofs.Media.WrittenQuality
import BasinRegister.Proofs.Format.GeoJson
