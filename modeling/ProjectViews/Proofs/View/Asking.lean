/-
What a view shows as filtered and ordered is what the server is asked for.

A request is put into words by way of the registry, and whatever the registry does not
admit is dropped then without a word: a filter on a field that is excluded or unknown, an
order by a field that the server has no name for.  So a view could show filters that it
does not ask for.  That it never does has its reason long before.  Every way into the
state is guarded, in other terms but to the same effect, and `Permitted` says what the
guards come to; it holds of the state at the time a generation begins, whichever way its
settings have come in, and the requests of the generation are put together from that state.

The last step is the address of a first page, into which a client puts the search and the
ordering as parameters; later pages have addresses that the server has given.
-/
import ProjectViews.Proofs.Search.Active
import ProjectViews.Proofs.View.Validity
import ProjectViews.Server.Client

namespace ProjectViews

namespace Search

variable {r : Registry} {filters : List Filter}

end Search

namespace Client

end Client

/-! ### The rule of requests -/

end ProjectViews
