import ModelDepot.Authority.Call
import ModelDepot.Authority.Local
import ModelDepot.Authority.Remote
import ModelDepot.Backfill
import ModelDepot.Cleanup
import ModelDepot.CleanupLoop
import ModelDepot.Command
import ModelDepot.CommandLine
import ModelDepot.Consumer
import ModelDepot.Control
import ModelDepot.Document
import ModelDepot.Duration
import ModelDepot.Event
import ModelDepot.Grants
import ModelDepot.Http.Domain
import ModelDepot.Http.Domain.Composition
import ModelDepot.Http.Domain.Direction
import ModelDepot.Http.Domain.Joining
import ModelDepot.Http.Domain.Mapping
import ModelDepot.Http.Domain.Punycode
import ModelDepot.Http.Host
import ModelDepot.Http.Percent
import ModelDepot.Http.Url
import ModelDepot.Json.Bytes
import ModelDepot.Json.Fault
import ModelDepot.Json.Printer
import ModelDepot.Json.Reader
import ModelDepot.Json.Shape
import ModelDepot.Json.Skip
import ModelDepot.Log.Basic
import ModelDepot.Logging
import ModelDepot.Main
import ModelDepot.Materialize
import ModelDepot.Number.Shortest
import ModelDepot.Permission
import ModelDepot.Program
import ModelDepot.Proofs.AbortedPass
import ModelDepot.Proofs.Acceptance
import ModelDepot.Proofs.AcceptedCommands
import ModelDepot.Proofs.Alone
import ModelDepot.Proofs.ApplyAlone
import ModelDepot.Proofs.ApplyCourse
import ModelDepot.Proofs.BackfillCourse
import ModelDepot.Proofs.BackfillRun
import ModelDepot.Proofs.Backlog
import ModelDepot.Proofs.CautiousPass
import ModelDepot.Proofs.CleanupAlone
import ModelDepot.Proofs.CleanupCourse
import ModelDepot.Proofs.CommandCodec
import ModelDepot.Proofs.ConsumerReactions
import ModelDepot.Proofs.Contents
import ModelDepot.Proofs.Depot
import ModelDepot.Proofs.Draining
import ModelDepot.Proofs.DriftRepair
import ModelDepot.Proofs.EditCourse
import ModelDepot.Proofs.Editing
import ModelDepot.Proofs.Effects
import ModelDepot.Proofs.FairFetching
import ModelDepot.Proofs.Follows
import ModelDepot.Proofs.GrantEdit
import ModelDepot.Proofs.GrantTexts
import ModelDepot.Proofs.HalfApplied
import ModelDepot.Proofs.HandledRecords
import ModelDepot.Proofs.Http.BatchChecks
import ModelDepot.Proofs.Http.ResourcePaths
import ModelDepot.Proofs.Http.Spelling
import ModelDepot.Proofs.Intents
import ModelDepot.Proofs.Json.Fields
import ModelDepot.Proofs.Json.Grammar
import ModelDepot.Proofs.Json.Maps
import ModelDepot.Proofs.Json.Meanings
import ModelDepot.Proofs.Json.Numerals
import ModelDepot.Proofs.Json.Printing
import ModelDepot.Proofs.Json.Rearranging
import ModelDepot.Proofs.Json.Records
import ModelDepot.Proofs.Json.Skipping
import ModelDepot.Proofs.Json.Spelling
import ModelDepot.Proofs.Json.Texts
import ModelDepot.Proofs.Json.Values
import ModelDepot.Proofs.Json.Wholes
import ModelDepot.Proofs.ListingOptions
import ModelDepot.Proofs.Listings
import ModelDepot.Proofs.LogOffsets
import ModelDepot.Proofs.LogReaders
import ModelDepot.Proofs.Migration
import ModelDepot.Proofs.Mishaps
import ModelDepot.Proofs.NamedListing
import ModelDepot.Proofs.Overrides
import ModelDepot.Proofs.OwnListing
import ModelDepot.Proofs.OwnerSeeding
import ModelDepot.Proofs.Paging
import ModelDepot.Proofs.PermissionQueries
import ModelDepot.Proofs.Permits
import ModelDepot.Proofs.Pipeline
import ModelDepot.Proofs.Play
import ModelDepot.Proofs.Race
import ModelDepot.Proofs.RecordTexts
import ModelDepot.Proofs.Redelivery
import ModelDepot.Proofs.RequestCourse
import ModelDepot.Proofs.Requests
import ModelDepot.Proofs.Restart
import ModelDepot.Proofs.RetriedApply
import ModelDepot.Proofs.RetrySchedule
import ModelDepot.Proofs.Search
import ModelDepot.Proofs.SearchFilter
import ModelDepot.Proofs.Secrecy
import ModelDepot.Proofs.SettingsFields
import ModelDepot.Proofs.ShrinkingListing
import ModelDepot.Proofs.SoleConsumer
import ModelDepot.Proofs.SortedListing
import ModelDepot.Proofs.StoreHistory
import ModelDepot.Proofs.StoreRows
import ModelDepot.Proofs.TextOrder
import ModelDepot.Proofs.ThinnedBackfill
import ModelDepot.Proofs.TimeBounds
import ModelDepot.Proofs.Trimming
import ModelDepot.Proofs.Upkeep
import ModelDepot.Publish
import ModelDepot.Rehearsal.Databases
import ModelDepot.Rehearsal.Files
import ModelDepot.Rehearsal.Invocation
import ModelDepot.Rehearsal.Session
import ModelDepot.Rehearsal.Step
import ModelDepot.Rehearsal.Storage
import ModelDepot.Rehearsal.Task
import ModelDepot.Rehearsal.World
import ModelDepot.Retry
import ModelDepot.Service
import ModelDepot.Settings
import ModelDepot.Settings.Override
import ModelDepot.Store
import ModelDepot.Store.Address
import ModelDepot.Store.Error
import ModelDepot.Store.Pattern
import ModelDepot.Store.Schema
import ModelDepot.Store.Table
import ModelDepot.Text.CharTable
import ModelDepot.Text.Cut
import ModelDepot.Text.Lossy
import ModelDepot.Text.Quoted
