import Pushdown.Error
import Pushdown.Json.Value
import Pushdown.Text.Letter

/-!
# Resources of a video site

The interface of a video site answers with deeply nested resources. Each is brought into the flat
shape of its table: a comment thread with the list of its replies, a video, a channel. What a
resource lacks is null.

Counts come as texts and become integers where they are integers. A length of time such as
`PT1H2M3S` becomes `1:2:3`: the numbers that are written, in order, between colons.
-/

namespace Pushdown.VideoSite

open Number

/-! ### Lengths of time -/

/-- A number in front of a unit, and what follows; no number if the unit does not follow it. -/
def component (unit : Char) (cs : List Char) : Option (List Char) × List Char :=
  let digits := cs.takeWhile Text.isDecimalDigit
  match cs.dropWhile Text.isDecimalDigit with
  | c :: rest => if c = unit ∧ !digits.isEmpty then (some digits, rest) else (none, cs)
  | [] => (none, cs)

/-- **The parts of a length of time**: hours, minutes and seconds, as far as they are written. -/
def durationParts? : List Char → Option (List (List Char))
  | 'P' :: 'T' :: cs =>
    let (hours, cs) := component 'H' cs
    let (minutes, cs) := component 'M' cs
    let (seconds, cs) := component 'S' cs
    if cs.isEmpty then some (hours.toList ++ minutes.toList ++ seconds.toList) else none
  | _ => none

/-- **A length of time as a text.** What is no length of time stays as it is. -/
def durationText (s : String) : String :=
  match durationParts? s.toList with
  | some parts => ":".intercalate (parts.map String.ofList)
  | none => s

/-! ### Shapes -/

/-- A count at a place: a text that writes an integer becomes the integer. -/
def countAt (v : Json) (pointer : String) : Json :=
  match v.at? pointer with
  | some (.string s) =>
    match readInt64? s.toList with
    | some i => .ofInt i
    | none => .string s
  | some other => other
  | none => .null

/-- The place of the comment that starts a thread. -/
def topComment : String := "/snippet/topLevelComment/snippet"

/-- One reply. -/
def replyRecord (reply : Json) : Json :=
  .object [
    ("user_id", reply.atOrNull "/snippet/authorChannelId/value"),
    ("reply_author", reply.atOrNull "/snippet/authorDisplayName"),
    ("reply", reply.atOrNull "/snippet/textOriginal")]

/-- The replies of a thread. -/
def replies (thread : Json) : Except QueryError (List Json) :=
  match thread.at? "/replies/comments" with
  | none => .ok []
  | some .null => .ok []
  | some (.array items) => .ok (items.map replyRecord)
  | some v => .error (.mismatch "replies" "list of objects" v)

/-- **A comment thread with the list of its replies.** -/
def threadRecord (thread : Json) : Except QueryError Json := do
  let found ← replies thread
  return .object [
    ("channel_id", thread.atOrNull "/snippet/channelId"),
    ("video_id", thread.atOrNull "/snippet/videoId"),
    ("user_id", thread.atOrNull (topComment ++ "/authorChannelId/value")),
    ("display_name", thread.atOrNull (topComment ++ "/authorDisplayName")),
    ("comment", thread.atOrNull (topComment ++ "/textDisplay")),
    ("replies", .array found)]

/-- The length of a video as a text. -/
def videoDuration (video : Json) : Json :=
  match video.at? "/contentDetails/duration" with
  | some (.string s) => .string (durationText s)
  | _ => .null

/-- **A video.** -/
def videoRecord (video : Json) : Json :=
  .object [
    ("channel_title", video.atOrNull "/snippet/channelTitle"),
    ("title", video.atOrNull "/snippet/title"),
    ("description", video.atOrNull "/snippet/description"),
    ("publish_time", video.atOrNull "/snippet/publishedAt"),
    ("comment_count", countAt video "/statistics/commentCount"),
    ("like_count", countAt video "/statistics/likeCount"),
    ("view_count", countAt video "/statistics/viewCount"),
    ("video_id", video.atOrNull "/id"),
    ("duration_str", videoDuration video)]

/-- **A channel.** -/
def channelRecord (channel : Json) : Json :=
  .object [
    ("country", channel.atOrNull "/snippet/country"),
    ("description", channel.atOrNull "/snippet/description"),
    ("creation_date", channel.atOrNull "/snippet/publishedAt"),
    ("title", channel.atOrNull "/snippet/title"),
    ("subscriber_count", countAt channel "/statistics/subscriberCount"),
    ("video_count", countAt channel "/statistics/videoCount"),
    ("view_count", countAt channel "/statistics/viewCount"),
    ("channel_id", channel.atOrNull "/id")]

end Pushdown.VideoSite
