import SearchLink.CommandLine.Directory
import SearchLink.Http.Service
import SearchLink.Main
import SearchLink.Proofs.Catalog.Construction
import SearchLink.Proofs.Http.ErrorPage
import SearchLink.Proofs.Http.IndexPage
import SearchLink.Proofs.Http.Redirect
import SearchLink.Proofs.Template.BracketClass
import SearchLink.Proofs.Template.Cursors
import SearchLink.Proofs.Template.EncodingSwitch
import SearchLink.Proofs.Template.EntryOrder
import SearchLink.Proofs.Template.LintAgreement
import SearchLink.Proofs.Template.LintCut
import SearchLink.Proofs.Template.LiteralPattern
import SearchLink.Proofs.Template.MatchCut
import SearchLink.Proofs.Template.RoundTrip
import SearchLink.Proofs.Template.Scanner
import SearchLink.Proofs.Template.SchemeKept
import SearchLink.Proofs.Template.Skeleton
import SearchLink.Proofs.Template.SlicePlaces
import SearchLink.Proofs.Template.TokenSearch
import SearchLink.Proofs.Template.Unrolling
import SearchLink.Proofs.Text.Trimming
import SearchLink.Proofs.Regex.GroupNames
import SearchLink.Proofs.Template.TargetReading
import SearchLink.Proofs.Unicode.CodeSet
import SearchLink.Proofs.Regex.SetMatch
import SearchLink.Proofs.Template.ShorthandClass
import SearchLink.Proofs.Url.Parts
