import Pushdown.Http.PageSource
import Pushdown.Settings
import Pushdown.Tables.Table

/-!
# The news table

A feed of posts. The interface filters by a few parameters, some of which are no data of a post, and
it never runs out of pages, so a request without a limit stops after a fixed number of posts.
-/

namespace Pushdown.News

open Http

/-- The number of posts that a request without a limit asks for. -/
def budget : Nat := 200

/-- What readers can vote a post to be. -/
def votes : List String :=
  ["negative", "positive", "important", "liked", "disliked", "lol", "toxic", "saved", "comments"]

/-- **The columns of a post.** -/
def schema : Schema where
  table := "news"
  columns :=
    [.output "id" .integer, .output "kind" .text, .output "domain" .text, .output "title" .text,
      .output "slug" .text, .output "url" .text, .output "published_at" .timestamp,
      .output "created_at" .timestamp, .output "source.title" .text,
      .output "source.region" .text, .output "source.domain" .text, .output "source.path" .text] ++
    votes.map (fun vote => .output ("votes." ++ vote) .integer) ++
    [.output "currencies" .json, .condition "filters" .text, .condition "currency" .text,
      .condition "regions" .text, .condition "following" .boolean]

/-- A parameter that takes one value or several. -/
def listed (column parameter : String) : ParameterField :=
  ⟨column, parameter, [.eq, .isIn], some ","⟩

/-- A parameter that takes one value. -/
def single (column parameter : String) : ParameterField := ⟨column, parameter, [.eq], none⟩

/-- **The parameters that filter.** -/
def dialect : ParameterDialect where
  target := "cryptopanic"
  fields :=
    [listed "filters" "filter", listed "currency" "currencies", listed "regions" "regions",
      single "kind" "kind", single "following" "following"]

/-- What the interface can do without any adjustment. -/
def capabilities : Capabilities := { Capabilities.filtering with defaultLimit := some budget }

/-- The pipeline of the table. -/
def pipeline (settings : Settings) : Pipeline where
  schema := schema
  capabilities := settings.capabilitiesFor "news" capabilities
  dialect := some (.parameters dialect)
  explode := none

/-- **The news table** over a source of posts. -/
def table {σ : Type} (settings : Settings) (source : Source σ) : Table σ :=
  .ofPipeline (pipeline settings) source

/-- The interface of the feed. -/
def interface (token : String) : PageInterface where
  endpoint := "https://cryptopanic.com/api/v1/posts/"
  fixed := [("auth_token", token), ("public", "true")]
  itemsAt := "/results"
  nextAt := some "/next"
  continuation := .address
  limitParameter := none

end Pushdown.News
