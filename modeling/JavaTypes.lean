import JavaTypes.View
import JavaTypes.Main
import JavaTypes.Proofs.Calls
import JavaTypes.Proofs.ClassNames
import JavaTypes.Proofs.Soundness
import JavaTypes.Proofs.TypeTrees
import JavaTypes.Proofs.Identity
import JavaTypes.Proofs.Readability
import JavaTypes.Proofs.DisplayOrder
import JavaTypes.Proofs.ImportCollection
import JavaTypes.Proofs.ImportListing
import JavaTypes.Proofs.TypeOrder
import JavaTypes.Proofs.Mentions
import JavaTypes.Proofs.ImportSets
import JavaTypes.Proofs.Resolution
import JavaTypes.Proofs.Descriptions
import JavaTypes.Proofs.Listings
import JavaTypes.Proofs.Answers
import JavaTypes.Proofs.Composition
import JavaTypes.Proofs.Lookup
import JavaTypes.Proofs.Stability
import JavaTypes.Proofs.Atomicity
import JavaTypes.Proofs.Safety
import JavaTypes.Proofs.LookupAgreement
import JavaTypes.Proofs.Spelling
import JavaTypes.Proofs.Descriptors
import JavaTypes.Proofs.Boxing
import JavaTypes.Proofs.Flattening
import JavaTypes.Proofs.Narrowing
import JavaTypes.Proofs.Sorting
import JavaTypes.Proofs.Arguments
import JavaTypes.Proofs.CommandLines
import JavaTypes.Proofs.EventLog
import JavaTypes.Proofs.TypeCounts
import JavaTypes.Proofs.ReportReading
import JavaTypes.Proofs.Styling
import JavaTypes.Proofs.ArrayTowers
import JavaTypes.Proofs.Unissued
import JavaTypes.Proofs.NamePools
