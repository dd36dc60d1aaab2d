import Pushdown.Http.PageSource
import Pushdown.Settings
import Pushdown.Tables.Table
import Pushdown.Tables.VideoResource

/-!
# The tables of a video site

Three tables ask a video site for comments, videos and channels. The interface answers only about
one thing at a time, so every query has to name it: a video or a channel for comments, the video for
videos, the channel for channels. This is checked before anything else.

A comment thread comes with its replies; the table of comments has one row per reply.
-/

namespace Pushdown.VideoSite

open Http

/-! ### Comments -/

/-- The columns of a comment and a reply to it. -/
def commentColumns : Schema where
  table := "comments"
  columns :=
    [.output "channel_id" .text, .output "video_id" .text, .output "user_id" .text,
      .output "display_name" .text, .output "comment" .text, .output "replies.user_id" .text,
      .output "replies.reply_author" .text, .output "replies.reply" .text]

/-- A parameter that an equality on a column stands for. -/
def named (column parameter : String) : ParameterField := ⟨column, parameter, [.eq], none⟩

/-- The dialect of the interface, with some parameters. -/
def dialect (fields : List ParameterField) : Dialect := .parameters ⟨"youtube", fields⟩

/-- The pipeline of one of the tables. -/
def pipelineOf (settings : Settings) (schema : Schema) (fields : List ParameterField)
    (explode : Option String) : Pipeline where
  schema := schema
  capabilities := settings.capabilitiesFor schema.table .filtering
  dialect := some (dialect fields)
  explode := explode

/-- The pipeline of comments. -/
def commentPipeline (settings : Settings) : Pipeline :=
  pipelineOf settings commentColumns
    [named "video_id" "videoId", named "channel_id" "allThreadsRelatedToChannelId"] (some "replies")

/-- **A query for comments names a video or a channel, and not both.** -/
def checkCommentTarget (cs : Conditions) : Except QueryError Unit :=
  match cs.mentions "video_id", cs.mentions "channel_id" with
  | true, true =>
    .error (.invalid "only one of video_id or channel_id can be present in the WHERE clause")
  | false, false => .error (.invalid "video_id or channel_id is required in the WHERE clause")
  | _, _ => .ok ()

/-- The plan of a query for comments. -/
def commentPlan (settings : Settings) (spec : Spec) : Except QueryError Plan := do
  checkCommentTarget spec.conditions
  (commentPipeline settings).plan spec

/-- **The table of comments.** -/
def comments {σ : Type} (settings : Settings) (source : Source σ) : Table σ :=
  let p := commentPipeline settings
  .readOnly p.schema p.capabilities fun spec => do
    let plan ← (commentPlan settings spec : Except QueryError Plan)
    p.runShaped plan source threadRecord

/-! ### Videos and channels -/

/-- The columns of a video. -/
def videoColumns : Schema where
  table := "videos"
  columns :=
    [.output "channel_title" .text, .output "title" .text, .output "description" .text,
      .output "publish_time" .timestamp, .output "comment_count" .integer,
      .output "like_count" .integer, .output "view_count" .integer, .output "video_id" .text,
      .output "duration_str" .text]

/-- The columns of a channel. -/
def channelColumns : Schema where
  table := "channels"
  columns :=
    [.output "country" .text, .output "description" .text, .output "creation_date" .timestamp,
      .output "title" .text, .output "subscriber_count" .integer, .output "video_count" .integer,
      .output "view_count" .integer, .output "channel_id" .text]

/-- The pipeline of videos. -/
def videoPipeline (settings : Settings) : Pipeline :=
  pipelineOf settings videoColumns [named "video_id" "id"] none

/-- The pipeline of channels. -/
def channelPipeline (settings : Settings) : Pipeline :=
  pipelineOf settings channelColumns [named "channel_id" "id"] none

/-- **A query names a column.** -/
def checkMentioned (column : String) (cs : Conditions) : Except QueryError Unit :=
  if cs.mentions column then .ok ()
  else .error (.invalid (column ++ " is required in the WHERE clause"))

/-- The plan of a query that has to name a column. -/
def planNaming (p : Pipeline) (column : String) (spec : Spec) : Except QueryError Plan := do
  checkMentioned column spec.conditions
  p.plan spec

/-- A table about the one thing that a column names. -/
def singleTable {σ : Type} (p : Pipeline) (column : String) (shape : Json → Json)
    (source : Source σ) : Table σ :=
  .readOnly p.schema p.capabilities fun spec => do
    let plan ← (planNaming p column spec : Except QueryError Plan)
    p.runShaped plan source fun v => .ok (shape v)

/-- **The table of videos.** -/
def videos {σ : Type} (settings : Settings) (source : Source σ) : Table σ :=
  singleTable (videoPipeline settings) "video_id" videoRecord source

/-- **The table of channels.** -/
def channels {σ : Type} (settings : Settings) (source : Source σ) : Table σ :=
  singleTable (channelPipeline settings) "channel_id" channelRecord source

/-! ### Interfaces -/

/-- The address of the interface. -/
def address : String := "https://www.googleapis.com/youtube/v3"

/-- The interface for comment threads. -/
def commentInterface (key : String) : PageInterface where
  endpoint := address ++ "/commentThreads"
  fixed := [("part", "snippet,replies"), ("textFormat", "plainText"), ("maxResults", "100"),
    ("key", key)]
  itemsAt := "/items"
  nextAt := some "/nextPageToken"
  continuation := .parameter "pageToken"
  limitParameter := none

/-- The interface for the details of one thing. -/
def detailInterface (resource key : String) : PageInterface where
  endpoint := address ++ "/" ++ resource
  fixed := [("part", "statistics,snippet,contentDetails"), ("key", key)]
  itemsAt := "/items"
  nextAt := none
  continuation := .address
  limitParameter := none

end Pushdown.VideoSite
