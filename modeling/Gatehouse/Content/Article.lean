import Gatehouse.Calendar.Rfc3339
import Gatehouse.Json.Decoder

/-!
# Articles

The documents that the content service answers with: single articles, and pages of them with the
place of the page among all. An article without an instant of publication is a draft.
-/
namespace Gatehouse

structure Article where
  id : Nat
  title : String
  slug : String
  publishedAt : Option Timestamp

/-- Where a page stands among all. -/
structure Paging where
  page : Nat
  pageSize : Nat
  total : Nat

structure Collection (Item : Type) where
  items : List Item
  paging : Paging

/-! ## As JSON -/

def Timestamp.toJson (time : Timestamp) : Json := .string (String.ofList time.printExact)

def Article.toJson (article : Article) : Json :=
  Json.ofPairs [("id", .ofNat article.id), ("title", .string article.title),
    ("slug", .string article.slug),
    ("publishedAt", article.publishedAt.elim .null Timestamp.toJson)]

def Paging.toJson (paging : Paging) : Json :=
  Json.ofPairs [("page", .ofNat paging.page), ("pageSize", .ofNat paging.pageSize),
    ("total", .ofNat paging.total)]

def Collection.toJson {Item : Type} (item : Item → Json) (collection : Collection Item) : Json :=
  Json.ofPairs [("data", .array (collection.items.map item)), ("meta", collection.paging.toJson)]

/-! ## From JSON -/

def timestampName : String := "an RFC 3339 formatted date and time string"

/-- The instant that a string between quotes spells. -/
def Timestamp.ofScanned (text : String) (rest : List UInt8) : Json.Scanned Timestamp :=
  match Rfc3339.parse text.toList with
  | .ok time => .ok (time, rest)
  | .error fault => .error (.before (.notText fault.message) rest)

def Timestamp.decoder : Json.Decoder Timestamp :=
  .strict timestampName fun input =>
    match Json.skipBlanks input with
    | 0x22 :: rest => (Json.scanText rest).bind fun (text, rest) => ofScanned text rest
    | other => Json.mismatch timestampName other

/-- The fields of an article that were read so far. -/
structure Article.Draft where
  id : Option Nat
  title : Option String
  slug : Option String
  publishedAt : Option (Option Timestamp)

def Article.slots : List (Json.Slot Article.Draft) :=
  [.of "id" .unsigned64 (·.id) fun draft id => { draft with id := some id },
    .of "title" .text (·.title) fun draft title => { draft with title := some title },
    .of "slug" .text (·.slug) fun draft slug => { draft with slug := some slug },
    .of "publishedAt" (.optional Timestamp.decoder) (·.publishedAt) fun draft time =>
      { draft with publishedAt := some time }]

/-- The article of a draft, or the first field that is missing. -/
def Article.ofDraft (draft : Article.Draft) : Except String Article :=
  match draft.id, draft.title, draft.slug with
  | none, _, _ => .error "id"
  | _, none, _ => .error "title"
  | _, _, none => .error "slug"
  | some id, some title, some slug => .ok ⟨id, title, slug, draft.publishedAt.join⟩

def Article.decoder : Json.Decoder Article :=
  .record "struct SampleArticle" Article.slots ⟨none, none, none, none⟩ Article.ofDraft

structure Paging.Draft where
  page : Option Nat
  pageSize : Option Nat
  total : Option Nat

def Paging.slots : List (Json.Slot Paging.Draft) :=
  [.of "page" .unsigned32 (·.page) fun draft page => { draft with page := some page },
    .of "pageSize" .unsigned32 (·.pageSize) fun draft size => { draft with pageSize := some size },
    .of "total" .unsigned64 (·.total) fun draft total => { draft with total := some total }]

def Paging.ofDraft (draft : Paging.Draft) : Except String Paging :=
  match draft.page, draft.pageSize, draft.total with
  | none, _, _ => .error "page"
  | _, none, _ => .error "pageSize"
  | _, _, none => .error "total"
  | some page, some pageSize, some total => .ok ⟨page, pageSize, total⟩

def Paging.decoder : Json.Decoder Paging :=
  .record "struct SamplePagination" Paging.slots ⟨none, none, none⟩ Paging.ofDraft

structure Collection.Draft (Item : Type) where
  items : Option (List Item)
  paging : Option Paging

def Collection.slots {Item : Type} (item : Json.Decoder Item) :
    List (Json.Slot (Collection.Draft Item)) :=
  [.of "data" (.list item) (·.items) fun draft items => { draft with items := some items },
    .of "meta" Paging.decoder (·.paging) fun draft paging => { draft with paging := some paging }]

def Collection.ofDraft {Item : Type} (draft : Collection.Draft Item) :
    Except String (Collection Item) :=
  match draft.items, draft.paging with
  | none, _ => .error "data"
  | _, none => .error "meta"
  | some items, some paging => .ok ⟨items, paging⟩

def Collection.decoder {Item : Type} (item : Json.Decoder Item) :
    Json.Decoder (Collection Item) :=
  .record "struct SampleCollection" (Collection.slots item) ⟨none, none⟩ Collection.ofDraft

end Gatehouse
