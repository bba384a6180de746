import LootFilter.Main
import LootFilter.Proofs.Filter.Validation
import LootFilter.Proofs.Number.Whole
import LootFilter.Proofs.Filter.Check
import LootFilter.Proofs.Filter.Acceptance
import LootFilter.Proofs.Text.Separated
import LootFilter.Proofs.Filter.Line
import LootFilter.Proofs.Filter.Value
import LootFilter.Proofs.Filter.Unambiguous
import LootFilter.Proofs.Item.Index
import LootFilter.Proofs.Item.NestedLoop
import LootFilter.Proofs.Filter.Layout
import LootFilter.Proofs.Json.Token
import LootFilter.Proofs.Json.Written
import LootFilter.Proofs.Json.Decode
import LootFilter.Proofs.Json.Record
import LootFilter.Proofs.Rule.Value
import LootFilter.Proofs.Rule.RoundTrip
import LootFilter.Proofs.Source.Load
import LootFilter.Proofs.Command.Effect
import LootFilter.Proofs.Filter.Preset
import LootFilter.Proofs.Command.Rules
import LootFilter.Proofs.Source.Version
import LootFilter.Proofs.Number.Rounding
import LootFilter.Proofs.Item.AttackRate
import LootFilter.Proofs.Item.RoundTrip
import LootFilter.Proofs.Item.Export
import LootFilter.Proofs.Json.Spelled
import LootFilter.Proofs.Filter.Concatenation
import LootFilter.Proofs.Filter.Correspondence
import LootFilter.Proofs.Json.Member
import LootFilter.Proofs.Json.Order
import LootFilter.Proofs.Json.Kept
import LootFilter.Proofs.Table.RoundTrip
import LootFilter.Proofs.Item.Kept
import LootFilter.Proofs.Json.Place
import LootFilter.Proofs.Rule.Undeclared
import LootFilter.Proofs.Source.RoundTrip
import LootFilter.Proofs.Source.Override
import LootFilter.Proofs.Json.Lookup
import LootFilter.Proofs.Item.Armour
import LootFilter.Proofs.Rule.Reorder
import LootFilter.Proofs.Source.Layout
import LootFilter.Proofs.Filter.Quotation
import LootFilter.Proofs.Filter.Highlight
