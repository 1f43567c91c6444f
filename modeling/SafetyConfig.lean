import SafetyConfig.Draft.Session
import SafetyConfig.File.Change
import SafetyConfig.File.Load
import SafetyConfig.Proofs.Convert.Acceptance
import SafetyConfig.Proofs.Convert.DocumentOrder
import SafetyConfig.Proofs.Convert.Growth
import SafetyConfig.Proofs.Convert.Order
import SafetyConfig.Proofs.Convert.Outcome
import SafetyConfig.Proofs.Convert.ReadBack
import SafetyConfig.Proofs.Draft.Copy
import SafetyConfig.Proofs.Draft.LastValue
import SafetyConfig.Proofs.Draft.SingleEdit
import SafetyConfig.Proofs.File.RootCheck
import SafetyConfig.Proofs.Markup.AttributeNames
import SafetyConfig.Proofs.Raw.Binding
import SafetyConfig.Proofs.Resource.Scoping
import SafetyConfig.Proofs.Tool.Agreement
import SafetyConfig.Proofs.Tool.Defaults
import SafetyConfig.Proofs.Tool.Explanation
import SafetyConfig.Proofs.Tool.Failures
import SafetyConfig.Proofs.Tool.Inventory
import SafetyConfig.Proofs.Tool.Published
import SafetyConfig.Tool.Published
import SafetyConfig.Proofs.File.NormalForm
import SafetyConfig.Proofs.File.Opening
import SafetyConfig.Proofs.File.Verdict
import SafetyConfig.Proofs.Json.PrintedText
import SafetyConfig.Proofs.Json.ReadBack
import SafetyConfig.Proofs.Tool.Description
import SafetyConfig.Proofs.Tool.Table
import SafetyConfig.Proofs.Tool.ShownIdentifier
