import Worksheet.Session
import Worksheet.Delimited.Load
import Worksheet.Document.Load
import Worksheet.Command.Run
import Worksheet.Main
import Worksheet.Proofs.Backtracking
import Worksheet.Proofs.CaselessSearch
import Worksheet.Proofs.Commas
import Worksheet.Proofs.Complements
import Worksheet.Proofs.Conditionals
import Worksheet.Proofs.Counters
import Worksheet.Proofs.DateArguments
import Worksheet.Proofs.DatePatterns
import Worksheet.Proofs.Failures
import Worksheet.Proofs.Finding
import Worksheet.Proofs.FormulaFields
import Worksheet.Proofs.LeftmostError
import Worksheet.Proofs.Loading
import Worksheet.Proofs.LongRecords
import Worksheet.Proofs.LookupSearch
import Worksheet.Proofs.MostFrequent
import Worksheet.Proofs.NameGrammar
import Worksheet.Proofs.OrderStatistics
import Worksheet.Proofs.OrderedCriteria
import Worksheet.Proofs.OwnCriteria
import Worksheet.Proofs.PairedRegions
import Worksheet.Proofs.ProperCase
import Worksheet.Proofs.ReadOnly
import Worksheet.Proofs.Replacing
import Worksheet.Proofs.RoundTrip
import Worksheet.Proofs.SingleCall
import Worksheet.Proofs.Spacing
import Worksheet.Proofs.Spreading
import Worksheet.Proofs.Switching
import Worksheet.Proofs.Transparency
import Worksheet.Proofs.ValueOrder
import Worksheet.Proofs.Wildcards
import Worksheet.Proofs.Workdays
