import RegionScript.Catalog.Basic
import RegionScript.Catalog.Document
import RegionScript.CommandLine.Directory
import RegionScript.Document.Json
import RegionScript.Engine
import RegionScript.Guid
import RegionScript.Log
import RegionScript.Main
import RegionScript.Object.Basic
import RegionScript.OrderedMap.Lemmas
import RegionScript.Position
import RegionScript.Proofs.Accepted
import RegionScript.Proofs.Bookkeeping
import RegionScript.Proofs.BoundNames
import RegionScript.Proofs.Buddies
import RegionScript.Proofs.CommandObject
import RegionScript.Proofs.Contents
import RegionScript.Proofs.Corrected
import RegionScript.Proofs.Corrections
import RegionScript.Proofs.Cycles
import RegionScript.Proofs.Doors
import RegionScript.Proofs.Draining
import RegionScript.Proofs.Draws
import RegionScript.Proofs.Elapsing
import RegionScript.Proofs.Endings
import RegionScript.Proofs.Entries
import RegionScript.Proofs.Escapes
import RegionScript.Proofs.EventUniqueness
import RegionScript.Proofs.FieldChanges
import RegionScript.Proofs.FieldWrites
import RegionScript.Proofs.Gatherings
import RegionScript.Proofs.Groups
import RegionScript.Proofs.Growth
import RegionScript.Proofs.Imports
import RegionScript.Proofs.Isolation
import RegionScript.Proofs.Journal
import RegionScript.Proofs.Keys
import RegionScript.Proofs.Lapses
import RegionScript.Proofs.Loading
import RegionScript.Proofs.Lookups
import RegionScript.Proofs.Meanings
import RegionScript.Proofs.Nearest
import RegionScript.Proofs.Negotiation
import RegionScript.Proofs.Numbering
import RegionScript.Proofs.Outcomes
import RegionScript.Proofs.Participants
import RegionScript.Proofs.Pending
import RegionScript.Proofs.Prefixes
import RegionScript.Proofs.QuestRuns
import RegionScript.Proofs.Records
import RegionScript.Proofs.Referents
import RegionScript.Proofs.Refits
import RegionScript.Proofs.Reloads
import RegionScript.Proofs.Routing
import RegionScript.Proofs.Running
import RegionScript.Proofs.Scripts
import RegionScript.Proofs.Sights
import RegionScript.Proofs.Simulation
import RegionScript.Proofs.SpokenTexts
import RegionScript.Proofs.Starting
import RegionScript.Proofs.StepFrame
import RegionScript.Proofs.StoreRuns
import RegionScript.Proofs.Summons
import RegionScript.Proofs.TableNames
import RegionScript.Proofs.Timers
import RegionScript.Proofs.Truncation
import RegionScript.Proofs.Turnover
import RegionScript.Proofs.Versions
import RegionScript.Region.Advance
import RegionScript.Region.Condition
import RegionScript.Region.Effects
import RegionScript.Region.Scene
import RegionScript.Registry
import RegionScript.Script.Command
import RegionScript.Script.Names
import RegionScript.Script.Table
import RegionScript.Seed
import RegionScript.Settings
import RegionScript.Single.Decimal
import RegionScript.Step.Run
import RegionScript.Text.Numeral
import RegionScript.View.Catalog
import RegionScript.View.Event
import RegionScript.View.Hook
import RegionScript.View.Object
import RegionScript.View.Script
import RegionScript.View.Settings
import RegionScript.View.Vocabulary
