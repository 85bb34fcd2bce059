import ProgramGuide.Proofs.Json.Writer
import ProgramGuide.Service.Fetch

/-!
# Bodies of requests

A body says what was put into it and nothing else, whatever characters the texts in it
have: the reader that the bodies of answers go through gives it back.
-/

namespace ProgramGuide

namespace Json

theorem list?_list {encode : α → Json} {decode : Json → Option α}
    (h : ∀ a, decode (encode a) = some a) (as : List α) :
    list? decode (list encode as) = some as := by
  change each? decode (as.map encode) = some as
  induction as with
  | nil => rfl
  | cons a as ih => simp only [List.map_cons, each?, h, ih]

theorem list?_strings (texts : List String) :
    list? string? (list .string texts) = some texts := by
  have hread (text : String) : string? (.string text) = some text := rfl
  exact list?_list hread texts

end Json

/-- The body of the request is read as the value, no more and no less, and decoded as a
payload it is the content. -/
structure Request.Says (request : Request) (value : Json) (decode : Json → Option α)
    (content : α) : Prop where
  body : ∃ body, request.body = some body ∧ Json.read? body = some value ∧
    ∀ status payload, (Response.mk status body).decode payload decode = .ok content

namespace Request

variable {request request' : Request} {value value' : Json} {decode : Json → Option α}
variable {content content' : α}

theorem says_of_textual (hbody : request.body = some value.write) (h : value.Textual)
    (hdecode : decode value = some content) : request.Says value decode content where
  body := by
    have hread := Json.read?_write h
    refine ⟨value.write, hbody, hread, fun status payload => ?_⟩
    simp [Response.decode, hread, hdecode]

theorem Says.content_eq (h : request.Says value decode content)
    (h' : request'.Says value' decode content') (hbody : request.body = request'.body) :
    content = content' := by
  obtain ⟨body, hbody₁, -, hdecode⟩ := h.body
  obtain ⟨body', hbody₂, -, hdecode'⟩ := h'.body
  obtain rfl : body = body' := by simpa [hbody₁, hbody₂] using hbody
  have hsame := (hdecode 200 "").symm.trans (hdecode' 200 "")
  exact Except.ok.inj hsame

end Request

section Kinds

open Json

/-- A station and the dates wanted of it. -/
def wantedDays : String × List String → Json
  | (station, dates) =>
      .object [("stationID", .string station), ("date", list .string dates)]

open Fields in
def wantedDays? : Fields (String × List String) :=
  Prod.mk <$> required "stationID" string? <*> required "date" (list? string?)

open Fields in
/-- A username and the digest of a password. -/
def login? : Fields (String × String) :=
  Prod.mk <$> required "username" string? <*> required "password" string?

theorem wantedDays?_wantedDays (wanted : String × List String) :
    wantedDays?.decode? (wantedDays wanted) = some wanted := by
  obtain ⟨station, dates⟩ := wanted
  have hdates := list?_strings dates
  simp [wantedDays?, wantedDays, Fields.decode?, Fields.required, Fields.field, Functor.map,
    Seq.seq, Fields.map, Fields.apply, string?, hdates]

theorem says_ids (path : String) (ids : List String) (token : String) :
    (Fetch.idsRequest path ids token).Says (list .string ids) (list? string?) ids :=
  Request.says_of_textual rfl (textual_strings ids) (list?_strings ids)

theorem says_schedule (station : String) (dates : List String) (token : String) :
    (Fetch.scheduleRequest station dates token).Says (list wantedDays [(station, dates)])
      (list? wantedDays?.decode?) [(station, dates)] := by
  have htextual : (wantedDays (station, dates)).Textual :=
    .object (by simp [Textual.string, textual_strings])
  refine Request.says_of_textual rfl (.array (by simpa using htextual)) ?_
  exact list?_list wantedDays?_wantedDays _

theorem says_login (c : Credentials) :
    (Tokens.request c).Says
      (.object [("username", .string c.username),
        ("password", .string (Sha1.ofText c.password))])
      login?.decode? (c.username, Sha1.ofText c.password) := by
  refine Request.says_of_textual rfl (.object (by simp [Textual.string])) ?_
  simp [login?, Fields.decode?, Fields.required, Fields.field, Functor.map, Seq.seq,
    Fields.map, Fields.apply, string?]

theorem ids_body_iff {path path' : String} {ids ids' : List String} {token token' : String} :
    (Fetch.idsRequest path ids token).body = (Fetch.idsRequest path' ids' token').body ↔
      ids = ids' := by
  constructor
  · exact (says_ids path ids token).content_eq (says_ids path' ids' token')
  · rintro rfl
    rfl

theorem schedule_body_iff {station station' : String} {dates dates' : List String}
    {token token' : String} :
    (Fetch.scheduleRequest station dates token).body =
        (Fetch.scheduleRequest station' dates' token').body ↔
      station = station' ∧ dates = dates' := by
  constructor
  · intro h
    have hsame := (says_schedule station dates token).content_eq
      (says_schedule station' dates' token') h
    simpa using hsame
  · rintro ⟨rfl, rfl⟩
    rfl

theorem login_body_iff {c c' : Credentials} :
    (Tokens.request c).body = (Tokens.request c').body ↔
      c.username = c'.username ∧ Sha1.ofText c.password = Sha1.ofText c'.password := by
  constructor
  · intro h
    have hsame := (says_login c).content_eq (says_login c') h
    simpa using hsame
  · rintro ⟨husername, hdigest⟩
    simp only [Tokens.request, husername, hdigest]

end Kinds

open Json in
/-- Whatever is posted, be it ids, a station with its dates or a login, is read back from
the body as it was, so bodies differ when the contents do. -/
theorem Request.says_what_is_posted :
    ((∀ path ids token,
        (Fetch.idsRequest path ids token).Says (list .string ids) (list? string?) ids) ∧
      (∀ station dates token,
        (Fetch.scheduleRequest station dates token).Says
          (.array [.object [("stationID", .string station), ("date", list .string dates)]])
          (list? wantedDays?.decode?) [(station, dates)]) ∧
      ∀ c, (Tokens.request c).Says
        (.object [("username", .string c.username),
          ("password", .string (Sha1.ofText c.password))])
        login?.decode? (c.username, Sha1.ofText c.password)) ∧
    (∀ path path' ids ids' token token',
      (Fetch.idsRequest path ids token).body = (Fetch.idsRequest path' ids' token').body ↔
        ids = ids') ∧
    (∀ station station' dates dates' token token',
      (Fetch.scheduleRequest station dates token).body =
          (Fetch.scheduleRequest station' dates' token').body ↔
        station = station' ∧ dates = dates') ∧
    ∀ c c', (Tokens.request c).body = (Tokens.request c').body ↔
      c.username = c'.username ∧ Sha1.ofText c.password = Sha1.ofText c'.password :=
  ⟨⟨says_ids, says_schedule, says_login⟩, fun _ _ _ _ _ _ => ids_body_iff,
    fun _ _ _ _ _ _ => schedule_body_iff, fun _ _ => login_body_iff⟩

/-- An id that looks like two is still one. -/
example : (Fetch.idsRequest "programs" ["a\",\"b"] "tok").body = some "[\"a\\\",\\\"b\"]" := by
  decide +kernel

end ProgramGuide
