import Almanac.Datetime.Normalizer
import Almanac.Diagnostics
import Almanac.Encoding.Page
import Almanac.Event.Record
import Almanac.Html.Page
import Almanac.Html.Reference
import Almanac.Html.Scanner
import Almanac.Json.Reader
import Almanac.Json.Writer
import Almanac.Main
import Almanac.Number.Decimal
import Almanac.Path
import Almanac.Pattern.Matching
import Almanac.Pattern.Reader
import Almanac.Proofs.Datetime.DateRange
import Almanac.Proofs.Datetime.ReadBack
import Almanac.Proofs.Datetime.SameLayout
import Almanac.Proofs.Encoding.PlainPages
import Almanac.Proofs.Event.CleanValues
import Almanac.Proofs.Event.Independence
import Almanac.Proofs.Event.StoredLists
import Almanac.Proofs.Selector.DocumentOrder
import Almanac.Proofs.Selector.ParserComplete
import Almanac.Proofs.Selector.Scope
import Almanac.Proofs.Selector.TableBody
import Almanac.Proofs.Session.Failure
import Almanac.Proofs.Session.History
import Almanac.Proofs.Session.InPlace
import Almanac.Proofs.Store.History
import Almanac.Selector.Evaluation
import Almanac.Selector.Index
import Almanac.Session
import Almanac.Store
import Almanac.Template.Reader
import Almanac.Text.Blank
import Almanac.Text.Case
import Almanac.Text.Search
import Almanac.Url.Error
import Almanac.Url.Reader
import Almanac.Proofs.Selector.Lexing
import Almanac.Proofs.Selector.Rendering
import Almanac.Proofs.Datetime.PieceLayout
import Almanac.Proofs.Datetime.TimeFormats
import Almanac.Proofs.Datetime.TimeSpan
import Almanac.Proofs.Datetime.Occurrences
import Almanac.Proofs.Event.RecordText
import Almanac.Proofs.Store.Files
import Almanac.Proofs.Extraction.LinkOrder
import Almanac.Proofs.Encoding.ByteOrderMark
import Almanac.Proofs.Selector.Union
import Almanac.Proofs.Datetime.FirstCut
import Almanac.Proofs.Datetime.MissedDates
import Almanac.Proofs.Selector.Chains
import Almanac.Proofs.Selector.Predicates
import Almanac.Proofs.Event.DateMerge
import Almanac.Proofs.Datetime.StatedParts
import Almanac.Proofs.Selector.Axes
import Almanac.Proofs.Selector.Shorthand
import Almanac.Proofs.Selector.Positions
import Almanac.Proofs.Selector.OneIndex
import Almanac.Proofs.Selector.FirstOffender
import Almanac.Proofs.Datetime.LetterCase
import Almanac.Proofs.Datetime.CheckedMatching
import Almanac.Proofs.Datetime.Candidates
import Almanac.Proofs.Datetime.CzechDates
import Almanac.Proofs.Locale.CzechMonths
import Almanac.Proofs.Extraction.ContextFree
import Almanac.Proofs.Datetime.Idempotence
import Almanac.Proofs.Event.Surplus
import Almanac.Proofs.Extraction.RepeatedSelectors
import Almanac.Proofs.Template.MemberOrder
import Almanac.Proofs.Selector.WellFormed
import Almanac.Proofs.Selector.OppositeAxes
import Almanac.Proofs.Extraction.Sanitizing
