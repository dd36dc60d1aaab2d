import Pushdown.Registry
import Pushdown.Store.Rest
import Pushdown.Tables.Collection
import Pushdown.Tables.News
import Pushdown.Tables.VideoSite

/-!
# Tables of the environment

The environment says which remote sides there are: a key for the video site, a token for the news,
the address of a vector store with the names of its collections. Each of them adds its tables to a
registry. Without a key, a token or an address there are no tables.
-/

namespace Pushdown

open Http

variable {σ : Type}

/-- The tables of the video site. -/
def videoTables (settings : Settings) (network : Network σ) (key : String) : List (Table σ) :=
  [VideoSite.comments settings ((VideoSite.commentInterface key).source network),
    VideoSite.videos settings ((VideoSite.detailInterface "videos" key).source network),
    VideoSite.channels settings ((VideoSite.detailInterface "channels" key).source network)]

/-- The names of collections, between commas; blanks around a name do not count. -/
def collectionNames (s : String) : List String :=
  ((Text.splitOn ',' s.toList).map Text.trim).filterMap fun n =>
    if n.isEmpty then none else some (String.ofList n)

/-- The tables of a vector store. -/
def collectionTables (settings : Settings) (network : Network σ) (environment : Environment)
    (address : String) : List (Table σ) :=
  let store := RestStore.store network (.ofAddress address (environment "MILVUS_TOKEN"))
  (collectionNames ((environment "MILVUS_COLLECTIONS").getD "")).map fun name =>
    Collection.table settings store name

/-- **The tables that the environment names.** -/
def remoteTables (settings : Settings) (network : Network σ) (environment : Environment) :
    List (Table σ) :=
  ((environment "YOUTUBE_API_KEY").map (videoTables settings network)).getD [] ++
    ((environment "CRYPTOPANIC_API_TOKEN").map fun token =>
      [News.table settings ((News.interface token).source network)]).getD [] ++
    ((environment "MILVUS_URI").map (collectionTables settings network environment)).getD []

/-- **A registry with the tables that the environment names.** -/
def Registry.withRemoteTables (r : Registry σ) (settings : Settings) (network : Network σ)
    (environment : Environment) : Registry σ :=
  (remoteTables settings network environment).foldl Registry.register r

end Pushdown
