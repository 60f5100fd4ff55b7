import Gatehouse.Content.Article

/-!
# Sample content

Documents to try things out on: articles, error bodies, and metadata full of secrets.
-/
namespace Gatehouse.Sample

/-- Half past nine on 15 March 2024. -/
def publication : Timestamp := ⟨1710495000, 0⟩

def publishedArticle : Article := ⟨1, "Hello world", "hello-world", some publication⟩

def draftArticle : Article := ⟨2, "Work in progress", "work-in-progress", none⟩

/-- Both articles on a single page. -/
def articlePage : Collection Article := ⟨[publishedArticle, draftArticle], ⟨1, 25, 2⟩⟩

/-- The body of a response that refuses an article. -/
def validationError : Json :=
  Json.ofPairs [("error", Json.ofPairs
    [("status", .integer 400), ("name", .string "ValidationError"),
      ("message", .string "title must be defined"),
      ("details", Json.ofPairs [("path", .array [.string "title"])])])]

/-- The body of a response that asks to come back later. -/
def unavailable : Json :=
  Json.ofPairs [("error", Json.ofPairs
    [("status", .integer 503), ("name", .string "ServiceUnavailable")])]

/-- Metadata of a login, with secrets at several depths. -/
def login : Json :=
  Json.ofPairs
    [("userId", .integer 42), ("password", .string "hunter2"),
      ("session", Json.ofPairs
        [("accessToken", .string "eyJhbGciOi..."), ("refresh_token", .string "r-123"),
          ("expiresIn", .integer 3600)]),
      ("devices", .array
        [Json.ofPairs [("name", .string "laptop"), ("apiKey", .string "k-1")],
          Json.ofPairs [("name", .string "phone"), ("pin", .string "0000")]])]

/-- The samples by name. -/
def named : List (String × Json) :=
  [("article_published", publishedArticle.toJson), ("article_draft", draftArticle.toJson),
    ("article_collection", articlePage.toJson Article.toJson),
    ("validation_error_body", validationError), ("unavailable_body", unavailable),
    ("login_metadata", login)]

end Gatehouse.Sample
