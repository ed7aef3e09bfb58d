import LoadTest.Server.Basic

/-!
# Posted texts

A text that is posted to a route is answered by that route (`Server.respond_post`), and the route
gets the text itself as long as it is not too large (`Server.withText_post`).
-/

namespace LoadTest

/-- Posts a text to a route. -/
def Request.post (route : Route) (contentType : Option String) (text : String) : Request :=
  ⟨"POST", route.path, contentType, text.toUTF8⟩

theorem Route.ofTarget?_path (route : Route) : ofTarget? route.path = some route := by
  cases route <;> rfl

/-- The bytes of a text are read as that text. -/
theorem fromUTF8?_toUTF8 (text : String) : String.fromUTF8? text.toUTF8 = some text :=
  dif_pos text.isValidUTF8

theorem Json.documentChars_toUTF8 (text : String) :
    Json.documentChars text.toUTF8 = text.toList := by
  rw [Json.documentChars, fromUTF8?_toUTF8]

namespace Server

variable {limit : Nat} {m : Moment} {route : Route} {contentType : Option String} {text : String}

theorem respond_post (h : route.isQuestion = false) :
    respond limit m (.post route contentType text) =
      answer limit m (.post route contentType text) route := by
  have hroute : Route.ofTarget? (Request.post route contentType text).target = some route :=
    route.ofTarget?_path
  have hmethod : (Request.post route contentType text).method = "POST" := rfl
  rw [respond, hmethod, if_neg (by decide), hroute]
  simp only [h, Bool.false_eq_true, if_false, if_true]

theorem withBody_post (hsize : text.utf8ByteSize ≤ limit) (answer : ByteArray → Response) :
    withBody limit (.post route contentType text) answer = answer text.toUTF8 :=
  if_neg (Nat.not_lt.2 hsize)

theorem withText_post (hsize : text.utf8ByteSize ≤ limit) (answer : String → Response) :
    withText limit (.post route contentType text) answer = answer text := by
  rw [withText, withBody_post hsize, fromUTF8?_toUTF8]

theorem ifJson_post (response : Response) :
    ifJson (.post route (some "application/json") text) response = response := by
  have htype : (((some "application/json").bind MediaType.ofText?).map MediaType.isJson).getD
      false = true := by decide
  exact if_pos htype

end Server

end LoadTest
