import PagedQuery.Paging.Fetch
import PagedQuery.View.OfList
import PagedQuery.Wire.Request
import PagedQuery.Proofs.Pages
import PagedQuery.Proofs.Checks
import PagedQuery.Proofs.ListViews
import PagedQuery.Proofs.Fetching
import PagedQuery.Proofs.Joining
import PagedQuery.Proofs.Inapplicable
import PagedQuery.Proofs.Operations
import PagedQuery.Proofs.Ranks
import PagedQuery.Proofs.Rounding
import PagedQuery.Proofs.MixedNumbers
import PagedQuery.Proofs.Chaining
import PagedQuery.Proofs.SortedViews
import PagedQuery.Proofs.SortedFilters
import PagedQuery.Proofs.LikeMatching
import PagedQuery.Proofs.Searching
import PagedQuery.Proofs.Reporting
import PagedQuery.Proofs.Typing
import PagedQuery.Proofs.Comparisons
import PagedQuery.Proofs.TextSearches
import PagedQuery.Proofs.DateTexts
import PagedQuery.Proofs.DayNumbers
import PagedQuery.Proofs.Timestamps
import PagedQuery.Proofs.JsonReading
import PagedQuery.Proofs.JsonWriting
import PagedQuery.Proofs.RoundTrips
import PagedQuery.Proofs.Schemas
import PagedQuery.Proofs.PageArithmetic
import PagedQuery.Proofs.DateForms
import PagedQuery.Proofs.FieldDocuments
import PagedQuery.Proofs.Padding
import PagedQuery.Proofs.IntegerTexts
import PagedQuery.Proofs.VariantFilters
import PagedQuery.Proofs.DecimalRounding
import PagedQuery.Proofs.ShortestDecimals
import PagedQuery.Proofs.FloatTexts
import PagedQuery.Proofs.EqualConditions
