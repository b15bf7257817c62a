import SapperBricks.Native.Http
import SapperBricks.Spec.CoreInvariant
import SapperBricks.Spec.RequestHooks

/-!
# Replication over HTTP

A service whose core has an `HttpNotifier`, and the service it notifies, an `HttpHandler`
over a core with an `InMemoryRepo`. The notifier writes the id of an entity into the target
of its request as it is, and the handler takes the id to be what comes after the last slash
of the decoded path, so the two agree on some ids only. These are the ids that are
replicated.

## Key results

- `arrives_iff`: which ids arrive
- `entityChanged_replicable`, `entityChanged_other`: one notification
- `replicated_iff`: the runs after which the notified service has what the other one has
-/

namespace SapperBricks

open Escapes Keyed

/-! ## Ids -/

/-- An id in which nothing has a meaning to the server or to the handler. -/
structure PlainId (id : String) : Prop where
  noSlash : '/' ∉ id.toList
  noQuestionMark : '?' ∉ id.toList
  noLineEnd : '\n' ∉ id.toList ∧ '\r' ∉ id.toList
  noEscape : ¬HasEscape percentEscape id.toList

instance (s : List Char) : Decidable (HasEscape percentEscape s) :=
  decidable_of_iff (unescape percentEscape s ≠ s) (by rw [ne_eq, unescape_eq_self_iff, not_not])

instance (id : String) : Decidable (PlainId id) :=
  decidable_of_iff ('/' ∉ id.toList ∧ '?' ∉ id.toList ∧ ('\n' ∉ id.toList ∧ '\r' ∉ id.toList) ∧
      ¬HasEscape percentEscape id.toList)
    ⟨fun ⟨h₁, h₂, h₃, h₄⟩ => ⟨h₁, h₂, h₃, h₄⟩,
      fun h => ⟨h.noSlash, h.noQuestionMark, h.noLineEnd, h.noEscape⟩⟩

/-- What the server makes of an id in a target. -/
def arrived (id : String) : String :=
  String.ofList (unescape percentEscape (id.toList.takeWhile (· != '?')))

/-- What comes after the last slash. -/
def lastSegment (path : String) : String :=
  String.ofList (path.toList.rtakeWhile (· != '/'))

/-- Only a percent sign starts an escape. -/
theorem percentEscape_of_ne {sign : Char} (h : sign ≠ '%') (high low : Char) :
    percentEscape sign high low = none := by
  unfold percentEscape
  rw [if_neg h]

/-- A string consists of characters that `.` matches. -/
theorem all_regexDot {s : List Char} : s.all regexDot = true ↔ '\n' ∉ s ∧ '\r' ∉ s := by
  simp only [List.all_eq_true, regexDot, Bool.and_eq_true, bne_iff_ne, ne_eq]
  constructor
  · intro h
    exact ⟨fun hn => (h _ hn).1 rfl, fun hr => (h _ hr).2 rfl⟩
  · intro ⟨hn, hr⟩ c hc
    constructor
    · rintro rfl
      exact hn hc
    · rintro rfl
      exact hr hc

/-- The path of a notification. -/
theorem requestPath_entity (id : String) :
    requestPath ("/Entity/" ++ id) = "/Entity/" ++ arrived id := by
  -- The route itself is neither cut nor decoded
  have hroute : ∀ c ∈ "/Entity/".toList, c ≠ '?' ∧ c ≠ '%' := by
    have hlist : "/Entity/".toList = ['/', 'E', 'n', 't', 'i', 't', 'y', '/'] := rfl
    rw [hlist]
    simp
  have htake : ("/Entity/".toList ++ id.toList).takeWhile (· != '?') =
      "/Entity/".toList ++ id.toList.takeWhile (· != '?') := by
    rw [List.takeWhile_append_of_pos]
    intro c hc
    simpa using (hroute c hc).1
  have hplain : ∀ c ∈ "/Entity/".toList, ∀ high low, percentEscape c high low = none :=
    fun c hc => percentEscape_of_ne (hroute c hc).2
  unfold requestPath arrived
  rw [String.toList_append, htake, unescape_append hplain, String.ofList_append,
    String.ofList_toList]

/-- The route of a path below `/Entity/`. -/
theorem matchRoute_entity (d : String) :
    matchRoute ("/Entity/" ++ d) = if d.toList.all regexDot then some d else none := by
  unfold matchRoute
  rw [substrTo_append, substr_append]
  simp

/-- The last segment of a path below `/Entity/`. -/
theorem matchLastSegment_entity (d : String) :
    HttpHandler.matchLastSegment ("/Entity/" ++ d) =
      if d.toList.all regexDot then some (lastSegment d) else none := by
  -- The path has its last slash in the id, or right before it
  have hlist : ("/Entity/" ++ d).toList = '/' :: ("Entity".toList ++ '/' :: d.toList) := by
    rw [String.toList_append]
    rfl
  have hdot : ("Entity".toList ++ '/' :: d.toList).all regexDot = d.toList.all regexDot := by
    rw [List.all_append, List.all_cons]
    rfl
  have hlast : ("Entity".toList ++ '/' :: d.toList).rtakeWhile (· != '/') =
      d.toList.rtakeWhile (· != '/') := rtakeWhile_append_cons (by decide) _ _
  unfold HttpHandler.matchLastSegment lastSegment
  rw [hlist]
  show (if _ ∧ _ then _ else _) = _
  rw [hdot, hlast]
  simp

/-- The last segment by its characters. -/
theorem lastSegment_eq_iff {d id : String} :
    lastSegment d = id ↔ d.toList.rtakeWhile (· != '/') = id.toList := by
  unfold lastSegment
  constructor
  · intro h
    have hchars := congrArg String.toList h
    rwa [String.toList_ofList] at hchars
  · intro h
    rw [h, String.ofList_toList]

/-- What follows the last slash is the whole text exactly if it has no slash. -/
theorem rtakeWhile_slash_eq_self {cs : List Char} :
    cs.rtakeWhile (· != '/') = cs ↔ '/' ∉ cs := by
  rw [List.rtakeWhile_eq_self_iff]
  constructor
  · intro h hslash
    -- Every character of the whole is no slash
    exact absurd (h '/' hslash) (by decide)
  · intro h c hc
    simp only [bne_iff_ne, ne_eq]
    rintro rfl
    exact h hc

/-- An id arrives as it is, as the handler sees it, exactly if it is plain. -/
theorem arrives_iff (id : String) :
    (arrived id).toList.all regexDot = true ∧ lastSegment (arrived id) = id ↔ PlainId id := by
  have harrived : (arrived id).toList =
      unescape percentEscape (id.toList.takeWhile (· != '?')) := String.toList_ofList
  rw [lastSegment_eq_iff, all_regexDot]
  constructor
  · intro ⟨hends, hid⟩
    -- Nothing can have become shorter on the way
    have hsuffix := List.rtakeWhile_suffix (· != '/') (arrived id).toList
    have hcut := List.takeWhile_prefix (l := id.toList) (· != '?')
    have hle := length_unescape_le percentEscape (id.toList.takeWhile (· != '?'))
    have hlen₁ := hsuffix.length_le
    have hlen₂ := hcut.length_le
    rw [hid, harrived] at hlen₁
    -- Nothing was cut at a '?', then nothing was decoded, then nothing was dropped
    have hwhole : id.toList.takeWhile (· != '?') = id.toList :=
      hcut.eq_of_length (by omega)
    rw [hwhole] at harrived
    rw [hid, harrived] at hsuffix
    have hdecoded : unescape percentEscape id.toList = id.toList :=
      (hsuffix.eq_of_length (by rw [hwhole] at hlen₁ hle; omega)).symm
    rw [harrived, hdecoded] at hid hends
    constructor
    · exact rtakeWhile_slash_eq_self.mp hid
    · intro hmark
      have := List.takeWhile_eq_self_iff.mp hwhole '?' hmark
      exact nomatch this
    · exact hends
    · exact unescape_eq_self_iff.mp hdecoded
  · intro h
    -- Each of the three changes nothing of a plain id
    have hwhole : id.toList.takeWhile (· != '?') = id.toList := by
      rw [List.takeWhile_eq_self_iff]
      intro c hc
      simp only [bne_iff_ne, ne_eq]
      rintro rfl
      exact h.noQuestionMark hc
    rw [hwhole, unescape_eq_self h.noEscape] at harrived
    rw [harrived]
    constructor
    · exact h.noLineEnd
    · exact rtakeWhile_slash_eq_self.mpr h.noSlash

/-! ## The handler on a notification -/

/-- An HTTP status that stands for a failure is not that of success. -/
theorem StatusConverter.ne_ok (self : StatusConverter) {status : Int}
    (h : self.fromHttp status ≠ .ok) : status ≠ self.toHttp .ok := by
  rintro rfl
  exact h self.from_to_ok

namespace HttpHandler

variable {σ ν : Type} (self : HttpHandler σ ν) {entity : Entity} {text : String}

/-- The status of a response. -/
theorem finish_status (status : Status) (response : HttpResponse) :
    (self.finish status response).status = self.converter.toHttp status.code := by
  unfold finish
  dsimp only
  split <;> rfl

/-- A request that throws an `invalid_argument` is answered as a failure. -/
theorem finish_invalidArgument (what : String) (response : HttpResponse) :
    self.converter.fromHttp (self.finish (self.requestHandler.process
      (.error (.invalidArgument what))) response).status ≠ .ok := by
  rw [finish_status]
  apply self.converter.from_to_failure
  exact self.requestHandler.handle_failure _ nofun

/-- The request of a notification, up to the id in its path. -/
theorem setEntityRequest_entity (hparse : self.json.parse text = .ok (entityToJson entity))
    (path : String) (s : σ × ν) :
    self.setEntityRequest ⟨path, text⟩ s =
      match matchLastSegment path with
      | none => (.error (.invalidArgument "invalid URL"), s)
      | some id =>
        if entity.id ≠ id then (.error (.invalidArgument "inconsistent id"), s)
        else ((self.api.setEntity entity s).1.map fun _ => .ok, (self.api.setEntity entity s).2) := by
  have hbody : (self.json.parse text >>= self.fromJson) = .ok entity := by
    rw [hparse]
    exact entityFromJson_entityToJson self.json entity
  unfold setEntityRequest extractId
  rw [hbody]
  dsimp only
  cases matchLastSegment path with
  | none => rfl
  | some id =>
    dsimp only
    -- The handler compares the id of the body with the one of the path
    by_cases hid : entity.id ≠ id
    · rw [if_pos hid, if_pos hid]
    · rw [if_neg hid, if_neg hid]
      cases hset : self.api.setEntity entity s with
      | mk r t => cases r <;> rfl

/-- A notification whose id is plain reaches the core. -/
theorem serve_plain (hparse : self.json.parse text = .ok (entityToJson entity))
    (hplain : PlainId entity.id) (s : σ × ν) :
    self.serve .put ("/Entity/" ++ entity.id) text s =
      (self.finish (self.requestHandler.process
        ((self.api.setEntity entity s).1.map fun _ => .ok)) {}, (self.api.setEntity entity s).2) := by
  obtain ⟨hdot, hlast⟩ := (arrives_iff entity.id).mpr hplain
  unfold serve handleRequest
  dsimp only
  rw [requestPath_entity, matchRoute_entity, if_pos hdot]
  dsimp only
  unfold setEntity
  rw [self.setEntityRequest_entity hparse, matchLastSegment_entity, if_pos hdot, hlast]
  simp only [ne_eq, not_true, if_false]

/-- Any other notification is answered as a failure and changes nothing. -/
theorem serve_other (hparse : self.json.parse text = .ok (entityToJson entity))
    (hother : ¬PlainId entity.id) (s : σ × ν) :
    (self.serve .put ("/Entity/" ++ entity.id) text s).2 = s ∧
    self.converter.fromHttp (self.serve .put ("/Entity/" ++ entity.id) text s).1.status ≠ .ok := by
  unfold serve handleRequest
  dsimp only
  rw [requestPath_entity, matchRoute_entity]
  -- The path has no route, or an id that is not the one of the entity
  by_cases hdot : (arrived entity.id).toList.all regexDot = true
  · have hid : entity.id ≠ lastSegment (arrived entity.id) :=
      fun h => hother ((arrives_iff entity.id).mp ⟨hdot, h.symm⟩)
    rw [if_pos hdot]
    dsimp only
    unfold setEntity
    rw [self.setEntityRequest_entity hparse, matchLastSegment_entity, if_pos hdot]
    simp only [hid, ne_eq, not_false_eq_true, if_true]
    exact ⟨trivial, self.finish_invalidArgument _ _⟩
  · rw [if_neg hdot]
    exact ⟨rfl, self.converter.from_notFound⟩

end HttpHandler

/-! ## Two services -/

/-- The libraries and settings of the two services. What the JSON library prints of an
    entity, it reads back; it does not print texts that are not UTF-8. -/
structure Services where
  json : NlohmannJson
  requestHandler : RequestHandler
  converter : StatusConverter
  retry : RetryHook
  readsBack : ∀ entity text, json.dump (entityToJson entity) = .ok text →
    json.parse text = .ok (entityToJson entity)

/-- The state of the notified service, with the responses it gave, in order. -/
structure Notified where
  responses : List HttpResponse
  state : EntityMap × Unit

namespace Services

variable (self : Services)

/-- The handler of the notified service; its core has no notifier. -/
def handler : HttpHandler EntityMap Unit :=
  ⟨self.json, self.requestHandler, self.converter, ⟨some inMemoryRepo, none⟩⟩

/-- The transport: every request is delivered once, and its response comes back. -/
def client : HttpClient Notified where
  put target body _ b :=
    let r := self.handler.serve .put target body b.state
    (.ok r.1, ⟨b.responses ++ [r.1], r.2⟩)

/-- The notifier. -/
def httpNotifier : HttpNotifier Notified :=
  ⟨self.json, self.converter, self.retry, self.client⟩

/-- The core of the notifying service. -/
def core : Core EntityMap Notified :=
  ⟨some inMemoryRepo, some self.httpNotifier.notifier⟩

/-- Both services, freshly started. -/
def fresh : EntityMap × Notified :=
  (∅, ⟨[], (∅, ())⟩)

/-- An entity whose document can be printed and whose id is plain. -/
def Replicable (entity : Entity) : Prop :=
  (self.json.dump (entityToJson entity)).isOk = true ∧ PlainId entity.id

instance : DecidablePred self.Replicable := fun entity =>
  inferInstanceAs (Decidable ((self.json.dump (entityToJson entity)).isOk = true ∧
    PlainId entity.id))

/-- The response accepts a request. -/
def Accepts (response : HttpResponse) : Prop :=
  response.status = self.converter.toHttp .ok

/-- The notified service accepted the notifications of some entities, each of them once. -/
def AcceptedOnce (entities : List Entity) (responses : List HttpResponse) : Prop :=
  (∀ response ∈ responses, self.Accepts response) ∧ responses.length = entities.length

/-! ## One notification -/

variable {self} {entity : Entity}

/-- One attempt to notify. -/
theorem attempt_eq {text : String} (hdump : self.json.dump (entityToJson entity) = .ok text)
    (b : Notified) :
    self.httpNotifier.attempt entity b =
      let r := self.handler.serve .put ("/Entity/" ++ entity.id) text b.state
      (.ok ⟨self.converter.fromHttp r.1.status, ""⟩, ⟨b.responses ++ [r.1], r.2⟩) := by
  simp only [HttpNotifier.attempt, httpNotifier, HttpNotifier.toJson, hdump, client]

/-- One attempt to notify of an entity that cannot be printed. -/
theorem attempt_unprintable {what : String}
    (hdump : self.json.dump (entityToJson entity) = .error what) (b : Notified) :
    self.httpNotifier.attempt entity b = (.error (.jsonException what), b) := by
  simp only [HttpNotifier.attempt, httpNotifier, HttpNotifier.toJson, hdump]

/-- The notification of a replicable entity. -/
theorem entityChanged_replicable (hid : entity.id ≠ "") (h : self.Replicable entity)
    (b : Notified) :
    self.httpNotifier.entityChanged entity b =
      (.ok (), ⟨b.responses ++ [{ status := self.converter.toHttp .ok }],
        (b.state.1.insert entity.id entity, ())⟩) := by
  obtain ⟨hprints, hplain⟩ := h
  cases hdump : self.json.dump (entityToJson entity) with
  | error what =>
    rw [hdump] at hprints
    exact nomatch hprints
  | ok text =>
    have hset : self.handler.api.setEntity entity b.state =
        (.ok (), (b.state.1.insert entity.id entity, ())) := by
      simp [handler, Core.setEntity, hid, inMemoryRepo, InMemoryRepo.store]
    have hserve : self.handler.serve .put ("/Entity/" ++ entity.id) text b.state =
        ({ status := self.converter.toHttp .ok }, (b.state.1.insert entity.id entity, ())) := by
      rw [self.handler.serve_plain (self.readsBack entity text hdump) hplain, hset]
      rfl
    have hattempt : self.httpNotifier.attempt entity b =
        (.ok ⟨.ok, ""⟩, ⟨b.responses ++ [{ status := self.converter.toHttp .ok }],
          (b.state.1.insert entity.id entity, ())⟩) := by
      rw [attempt_eq hdump, hserve]
      simp only [self.converter.from_to_ok]
    -- It succeeds, so it is the only one
    unfold HttpNotifier.entityChanged
    dsimp only
    rw [self.httpNotifier.retry.process_of_ok (congrArg Prod.fst hattempt) rfl, hattempt]
    rfl

/-- What an attempt leaves that does not succeed: the repo as it was, and responses that
    accept nothing. -/
def Rejected (self : Services) (b b' : Notified) : Prop :=
  ∃ rejected : List HttpResponse, (∀ response ∈ rejected, ¬self.Accepts response) ∧
    b' = ⟨b.responses ++ rejected, b.state⟩

/-- One attempt to notify of any other entity. -/
theorem attempt_other (hother : ¬self.Replicable entity) (b : Notified) :
    forwardErrors (self.httpNotifier.attempt entity b).1 ≠ .ok () ∧
    self.Rejected b (self.httpNotifier.attempt entity b).2 := by
  cases hdump : self.json.dump (entityToJson entity) with
  | error what =>
    -- Nothing is sent
    rw [attempt_unprintable hdump]
    refine ⟨nofun, [], nofun, ?_⟩
    rw [List.append_nil]
  | ok text =>
    have hid : ¬PlainId entity.id := by
      intro hplain
      apply hother
      rw [Replicable, hdump]
      exact ⟨rfl, hplain⟩
    obtain ⟨hstate, hfails⟩ :=
      self.handler.serve_other (self.readsBack entity text hdump) hid b.state
    rw [attempt_eq hdump]
    dsimp only
    rw [hstate]
    constructor
    · intro hok
      -- The status that comes back would have to be one of success
      obtain ⟨status, hstatus, hcode⟩ := forwardErrors_eq_ok.mp hok
      cases hstatus
      exact hfails hcode
    · refine ⟨[_], ?_, rfl⟩
      intro response hresponse
      rw [List.mem_singleton.mp hresponse]
      exact self.converter.ne_ok hfails

/-- The notification of any other entity fails. It may be tried more than once. -/
theorem entityChanged_other (hother : ¬self.Replicable entity) (b : Notified) :
    (self.httpNotifier.entityChanged entity b).1 ≠ .ok () ∧
    self.Rejected b (self.httpNotifier.entityChanged entity b).2 := by
  have hstart : self.Rejected b b := ⟨[], nofun, by rw [List.append_nil]⟩
  -- However many attempts there were, none was accepted
  have hattempt : ∀ b', self.Rejected b b' →
      self.Rejected b (self.httpNotifier.attempt entity b').2 ∧
      (forwardErrors (self.httpNotifier.attempt entity b').1 = .ok () → False) := by
    rintro _ ⟨rejected, hrejected, rfl⟩
    obtain ⟨hfails, new, hnew, hstate⟩ :=
      attempt_other hother ⟨b.responses ++ rejected, b.state⟩
    apply And.intro _ hfails
    refine ⟨rejected ++ new, ?_, ?_⟩
    · intro response hresponse
      obtain hold | hlast := List.mem_append.mp hresponse
      · exact hrejected response hold
      · exact hnew response hlast
    · rw [hstate, List.append_assoc]
  have hlast := self.httpNotifier.retry.process_spec (I := self.Rejected b) (Q := fun _ => False)
    hattempt self.httpNotifier.retry.maxRetryCount hstart
  exact ⟨hlast.2, hlast.1⟩

/-- What a call of `SetEntity` at the notifying core comes down to. -/
theorem setEntity_eq (hid : entity.id ≠ "") (s : EntityMap × Notified) :
    self.core.setEntity entity s =
      ((self.httpNotifier.entityChanged entity s.2).1,
        (s.1.insert entity.id entity, (self.httpNotifier.entityChanged entity s.2).2)) := by
  simp [core, Core.setEntity, hid, inMemoryRepo, InMemoryRepo.store, HttpNotifier.notifier]

/-- It returns normally exactly if the entity is replicable. -/
theorem setEntity_ok_iff (hid : entity.id ≠ "") (s : EntityMap × Notified) :
    (self.core.setEntity entity s).1 = .ok () ↔ self.Replicable entity := by
  rw [setEntity_eq hid]
  constructor
  · intro hok
    by_contra hother
    exact (entityChanged_other hother s.2).1 hok
  · intro h
    rw [entityChanged_replicable hid h]

/-! ## Runs -/

/-- What holds of the two services after some entities were set at the first one. -/
structure Replicates (services : Services) (entities : List Entity)
    (s : EntityMap × Notified) : Prop where
  contents : IsLatest Entity.id s.1 entities
  /-- the second service has the replicable ones -/
  replica : IsLatest Entity.id s.2.state.1 (entities.filter fun e => services.Replicable e)
  /-- responses that all accept are those to the replicable ones -/
  accepted : (∀ response ∈ s.2.responses, services.Accepts response) →
    s.2.responses.length = (entities.filter fun e => services.Replicable e).length
  complete : (∀ e ∈ entities, services.Replicable e) →
    ∀ response ∈ s.2.responses, services.Accepts response

/-- One call of `SetEntity` at the notifying core. -/
theorem Replicates.setEntity {entities : List Entity} {s : EntityMap × Notified}
    (h : self.Replicates entities s) (hid : entity.id ≠ "") :
    self.Replicates (entities ++ [entity]) (self.core.setEntity entity s).2 := by
  rw [setEntity_eq hid]
  by_cases hentity : self.Replicable entity
  · -- The second service has the entity, and accepted it in one response
    have hfilter : (entities ++ [entity]).filter (fun e => self.Replicable e) =
        entities.filter (fun e => self.Replicable e) ++ [entity] := by
      simp [List.filter_append, hentity]
    rw [entityChanged_replicable hid hentity]
    constructor
    · exact h.contents.insert entity
    · rw [hfilter]
      exact h.replica.insert entity
    · intro hall
      rw [hfilter, List.length_append, List.length_append,
        h.accepted fun response hresponse => hall response (List.mem_append_left _ hresponse)]
      rfl
    · intro hall response hresponse
      obtain hold | hnew := List.mem_append.mp hresponse
      · exact h.complete (fun e he => hall e (List.mem_append_left _ he)) response hold
      · rw [List.mem_singleton.mp hnew]
        rfl
  · -- The second service stays as it was, and says so in every response
    have hfilter : (entities ++ [entity]).filter (fun e => self.Replicable e) =
        entities.filter (fun e => self.Replicable e) := by
      simp [List.filter_append, hentity]
    obtain ⟨-, rejected, hrejected, hstate⟩ := entityChanged_other hentity s.2
    rw [hstate]
    constructor
    · exact h.contents.insert entity
    · rw [hfilter]
      exact h.replica
    · intro hall
      -- A response that rejects would be among them
      have hnone : rejected = [] := by
        cases rejected with
        | nil => rfl
        | cons response rest =>
          have hmem : response ∈ s.2.responses ++ response :: rest := by simp
          exact absurd (hall response hmem) (hrejected response List.mem_cons_self)
      subst hnone
      rw [hfilter, List.append_nil]
      exact h.accepted fun response hresponse => hall response (List.mem_append_left _ hresponse)
    · intro hall
      have hmem : entity ∈ entities ++ [entity] := by simp
      exact absurd (hall entity hmem) hentity

/-- Calls of `SetEntity` at the notifying core. -/
theorem Replicates.run (calls : List Entity) (hids : ∀ e ∈ calls, e.id ≠ "")
    {entities : List Entity} {s : EntityMap × Notified} (h : self.Replicates entities s) :
    self.Replicates (entities ++ calls) (self.core.run (calls.map .setEntity) s).2 := by
  -- Induction on the calls, from the services as they are
  induction calls generalizing entities s with
  | nil => simpa [Core.run] using h
  | cons e calls ih =>
    have he := h.setEntity (hids e List.mem_cons_self)
    have hrun := ih (fun e' he' => hids e' (List.mem_cons_of_mem e he')) he
    rw [List.append_assoc] at hrun
    exact hrun

/-- Freshly started services. -/
theorem replicates_fresh : self.Replicates [] fresh where
  contents := isLatest_empty
  replica := isLatest_empty
  accepted _ := rfl
  complete _ := nofun

/-- The notifications were all accepted exactly if all entities are replicable. -/
theorem Replicates.acceptedOnce_iff {entities : List Entity} {s : EntityMap × Notified}
    (h : self.Replicates entities s) :
    self.AcceptedOnce entities s.2.responses ↔ ∀ e ∈ entities, self.Replicable e := by
  constructor
  · intro ⟨hall, hlength⟩
    -- As many are replicable as there are entities
    rw [h.accepted hall, List.length_filter_eq_length_iff] at hlength
    intro e he
    simpa using hlength e he
  · intro hall
    have haccept := h.complete hall
    have hfilter : entities.filter (fun e => self.Replicable e) = entities := by
      simpa using hall
    apply And.intro haccept
    rw [h.accepted haccept, hfilter]

/-- **Replication.** Two fresh services run a sequence of `SetEntity` calls with non-empty
    ids at the first one, and the transport delivers every notification once and in order.
    The second service accepts them all and ends with the same repo exactly if the document
    of every entity can be printed and every id is plain: without a slash, a question mark,
    a line end or a percent sign before two hexadecimal digits. -/
theorem replicated_iff (self : Services) {entities : List Entity}
    (hids : ∀ e ∈ entities, e.id ≠ "") :
    let s := (self.core.run (entities.map .setEntity) fresh).2
    self.AcceptedOnce entities s.2.responses ∧ s.2.state.1 = s.1 ↔
      ∀ e ∈ entities, self.Replicable e := by
  intro s
  have h : self.Replicates entities s := replicates_fresh.run entities hids
  constructor
  · rintro ⟨haccepted, -⟩
    exact h.acceptedOnce_iff.mp haccepted
  · intro hall
    have hfilter : entities.filter (fun e => self.Replicable e) = entities := by
      simpa using hall
    have hreplica := h.replica
    rw [hfilter] at hreplica
    exact ⟨h.acceptedOnce_iff.mpr hall, hreplica.unique h.contents⟩

/-! ## An id with a slash -/

/-- The library on the documents of some entities. -/
def documentsJson (documents : List (Entity × String)) : NlohmannJson where
  parse t :=
    match documents.find? fun d => d.2 = t with
    | some d => .ok (entityToJson d.1)
    | none => .error "[json.exception.parse_error.101] parse error"
  dump
    | .object [("id", .string id), ("int_property", .numberInteger i),
        ("string_property", .string s)] =>
      match documents.find? fun d =>
          id = d.1.id ∧ i = d.1.intProperty.toInt ∧ s = d.1.stringProperty with
      | some d => .ok d.2
      | none => .error "[json.exception.type_error.316] invalid UTF-8 byte"
    | _ => .error "[json.exception.type_error.316] invalid UTF-8 byte"
  atError _ _ := "[json.exception.out_of_range.403] key not found"
  typeError _ := "[json.exception.type_error.302] type must be another"
  castOutOfRange _ := Int32.minValue

/-- What it prints, it reads back, if no two entities have the same text. -/
theorem documentsJson_readsBack {documents : List (Entity × String)}
    (hdistinct : ∀ d ∈ documents, ∀ d' ∈ documents, d.2 = d'.2 → d.1 = d'.1) (e : Entity)
    (t : String) (h : (documentsJson documents).dump (entityToJson e) = .ok t) :
    (documentsJson documents).parse t = .ok (entityToJson e) := by
  rw [entityToJson_eq] at h
  simp only [documentsJson] at h ⊢
  split at h
  · rename_i d hprinted
    cases h
    have heq := List.find?_some hprinted
    simp only [decide_eq_true_eq] at heq
    obtain ⟨hid, hint, hstring⟩ := heq
    have he : e = d.1 := by
      cases e
      cases hd : d.1
      simp_all [Int32.toInt_inj]
    -- The document that is found by the text is that of the entity
    cases hread : documents.find? fun d' => d'.2 = d.2 with
    | none =>
      have hnot := List.find?_eq_none.mp hread d (List.mem_of_find?_eq_some hprinted)
      simp at hnot
    | some d' =>
      have htext : d'.2 = d.2 := by simpa using List.find?_some hread
      have hsame := hdistinct d' (List.mem_of_find?_eq_some hread) d
        (List.mem_of_find?_eq_some hprinted) htext
      dsimp only
      rw [he, hsame]
  · exact nomatch h

/-- The library on the document of one entity. -/
abbrev documentJson (entity : Entity) (text : String) : NlohmannJson :=
  documentsJson [(entity, text)]

/-- What it prints, it reads back. -/
theorem documentJson_readsBack (entity : Entity) (text : String) (e : Entity) (t : String)
    (h : (documentJson entity text).dump (entityToJson e) = .ok t) :
    (documentJson entity text).parse t = .ok (entityToJson e) := by
  refine documentsJson_readsBack (fun d hd d' hd' _ => ?_) e t h
  rw [List.mem_singleton.mp hd, List.mem_singleton.mp hd']

/-- The HTTP statuses of the codes the bricks name. -/
def testConverter : StatusConverter where
  toHttp
    | .ok => 200
    | .invalidArgument => 400
    | .notFound => 404
    | .unauthenticated => 401
    | .unavailable => 503
    | .other _ => 500
  fromHttp status :=
    if status = 200 then .ok
    else if status = 400 then .invalidArgument
    else if status = 404 then .notFound
    else if status = 401 then .unauthenticated
    else if status = 503 then .unavailable
    else .other 2
  from_to_ok := rfl
  from_to_failure code h := by cases code <;> simp at h ⊢
  from_notFound := by decide

/-- The exceptions that are told apart, and the rest. -/
def testRequestHandler : RequestHandler where
  handle
    | .errorForwarding status _ => status
    | .invalidArgument what => ⟨.invalidArgument, what⟩
    | e => ⟨.other 13, e.what?.getD "unknown exception"⟩
  handle_failure e h := by
    cases e with
    | errorForwarding status details => exact h status details rfl
    | _ => exact nofun
  handle_invalidArgument _ := rfl

/-- Two services that retry `unavailable` three times. -/
def testServices (entity : Entity) (text : String) : Services where
  json := documentJson entity text
  requestHandler := testRequestHandler
  converter := testConverter
  retry := ⟨3, fun code => code == .unavailable, rfl, rfl⟩
  readsBack := documentJson_readsBack entity text

/-- An entity whose id has a slash. -/
def slashEntity : Entity := ⟨"a/b", "str", 42⟩

/-- Its text. -/
def slashText : String :=
  "\x7b\"id\":\"a/b\",\"int_property\":42,\"string_property\":\"str\"\x7d"

/-- The entity is stored at the first service and rejected by the second one. -/
theorem replicated_slash :
    slashEntity.id ≠ "" ∧
    (testServices slashEntity slashText).json.dump (entityToJson slashEntity) = .ok slashText ∧
    let s := ((testServices slashEntity slashText).core.run [.setEntity slashEntity] fresh).2
    s.1["a/b"]? = some slashEntity ∧ s.2.responses = [⟨400, "inconsistent id", ""⟩] ∧
    ¬(testServices slashEntity slashText).AcceptedOnce [slashEntity] s.2.responses ∧
    s.2.state.1 ≠ s.1 := by
  refine ⟨by decide, by decide, by decide, by decide, ?_, ?_⟩
  · intro haccepted
    exact absurd (haccepted.1 ⟨400, "inconsistent id", ""⟩ (by decide)) (by unfold Accepts; decide)
  · intro heq
    have hfirst : ((testServices slashEntity slashText).core.run [.setEntity slashEntity]
        fresh).2.1["a/b"]? = some slashEntity := by decide
    rw [← heq] at hfirst
    revert hfirst
    decide

/-- The entity of the usage examples, what it is changed to, and another entity. -/
def exampleDocuments : List (Entity × String) :=
  [(exampleEntity, exampleText),
    (⟨"test", "changed", 43⟩,
      "\x7b\"id\":\"test\",\"int_property\":43,\"string_property\":\"changed\"\x7d"),
    (⟨"test-2", "str", 7⟩,
      "\x7b\"id\":\"test-2\",\"int_property\":7,\"string_property\":\"str\"\x7d")]

/-- The services with these. -/
def exampleServices : Services where
  __ := testServices exampleEntity exampleText
  json := documentsJson exampleDocuments
  readsBack := fun _ _ => documentsJson_readsBack (by decide) _ _

/-- All of them are replicated. -/
theorem replicated_example :
    let s := (exampleServices.core.run (exampleDocuments.map fun d => .setEntity d.1) fresh).2
    exampleServices.AcceptedOnce (exampleDocuments.map Prod.fst) s.2.responses ∧
    s.2.state.1 = s.1 := by
  have hids : ∀ e ∈ exampleDocuments.map Prod.fst, e.id ≠ "" := by decide
  apply (replicated_iff exampleServices hids).mpr
  intro e he
  simp only [exampleDocuments, List.map_cons, List.map_nil, List.mem_cons, List.not_mem_nil,
    or_false] at he
  obtain rfl | rfl | rfl := he
  · decide
  · decide
  · decide

end Services

end SapperBricks
