import RealmSetup.Auth.Grant
import RealmSetup.Proofs.Effect.Transcripts
import RealmSetup.Proofs.Wire.Records

/-!
# The life of a token

A source of tokens keeps the one it was granted last until it is told to drop it.  What it did so far
is a list of turns, and from these alone it can be told which token is held (`Held`): the one of the
latest successful grant, if it was not dropped since.  A grant that is refused is a turn that changes
nothing (`held_append_singleton`).

`takes_access_or_overruns` says all that asking for a token can do.  The clock is read; then either the
token that is kept is handed out, with more than the window left of its life, or a grant is requested,
because no such token is kept.  The token that is granted is handed out and kept; a refusal is handed on,
and what is kept stays as it was.  The only way in which nothing comes of it is that the end of a granted
token lies outside the calendar (`Overruns`; where `Fits` excludes it, `takes_access` says what happens).
What a reply grants is told by its body (`read_of_shows`).
-/

namespace RealmSetup

/-! ## What was held -/

/-- What is left of the life of a token, in nanoseconds. -/
def AdminToken.left (t : AdminToken) (now : Instant) : Int := t.expiresAt.nanos - now.nanos

/-- Something that a source of tokens does. -/
inductive Turn where
  /-- A grant comes to a token, or is refused or fails. -/
  | grant (ending : Except Error AdminToken)
  /-- What is kept is dropped. -/
  | drop

/-- The token of the latest successful grant, unless it was dropped since. -/
def Held (history : List Turn) (t : AdminToken) : Prop :=
  ∃ before after, history = before ++ .grant (.ok t) :: after ∧
    ∀ turn ∈ after, ∃ e, turn = .grant (.error e)

theorem not_held_nil (t : AdminToken) : ¬Held [] t := by
  rintro ⟨before, after, split, -⟩
  simp at split

/-- One more turn: it grants a token, or it is refused and an older token is held on. -/
theorem held_append_singleton {history : List Turn} {turn : Turn} {t : AdminToken} :
    Held (history ++ [turn]) t ↔
      turn = .grant (.ok t) ∨ Held history t ∧ ∃ e, turn = .grant (.error e) := by
  constructor
  · rintro ⟨before, after, split, refused⟩
    obtain rfl | ⟨after, last, rfl⟩ := after.eq_nil_or_concat
    · exact .inl (by simpa using List.append_inj_right' split rfl)
    · rw [List.concat_eq_append] at split refused
      rw [← List.cons_append, ← List.append_assoc] at split
      obtain ⟨rfl, same⟩ := List.append_inj' split rfl
      obtain rfl := List.singleton_inj.1 same
      exact .inr ⟨⟨before, after, rfl, fun turn h => refused turn (by simp [h])⟩,
        refused turn (by simp)⟩
  · rintro (rfl | ⟨⟨before, after, rfl, refused⟩, e, rfl⟩)
    · exact ⟨history, [], rfl, by simp⟩
    · refine ⟨before, after ++ [.grant (.error e)], by simp, fun turn h => ?_⟩
      obtain h | h := List.mem_append.1 h
      · exact refused turn h
      · exact ⟨e, List.mem_singleton.1 h⟩

/-- What is kept is the token that is held. -/
def KeepsHeld (history : List Turn) (kept : Option AdminToken) : Prop :=
  ∀ t, kept = some t ↔ Held history t

theorem KeepsHeld.eq {history : List Turn} {kept kept' : Option AdminToken} (h : KeepsHeld history kept)
    (h' : KeepsHeld history kept') : kept' = kept :=
  Option.ext fun t => (h' t).trans (h t).symm

/-- Grants that are refused change nothing. -/
theorem KeepsHeld.of_refused {history turns : List Turn} {kept : Option AdminToken}
    (h : KeepsHeld (history ++ turns) kept) (refused : ∀ turn ∈ turns, ∃ e, turn = .grant (.error e)) :
    KeepsHeld history kept := by
  induction turns generalizing history with
  | nil => simpa using h
  | cons turn turns ih =>
    obtain ⟨e, rfl⟩ := refused turn (by simp)
    rw [List.append_cons] at h
    intro t
    refine (ih h (fun turn h => refused turn (by simp [h])) t).trans ?_
    simp [held_append_singleton]

theorem not_held_dropped (history : List Turn) (t : AdminToken) : ¬Held (history ++ [.drop]) t := by
  simp [held_append_singleton]

theorem keeps_dropped (history : List Turn) : KeepsHeld (history ++ [.drop]) none :=
  fun t => ⟨nofun, fun held => absurd held (not_held_dropped history t)⟩

/-! ## Events without notes -/

/-- Whether something that happened is a note. -/
def Event.isNote (e : Event Host) : Bool :=
  match e.call with
  | .note _ => true
  | _ => false

/-- Events without the notes among them. -/
def quiet (events : List (Event Host)) : List (Event Host) :=
  events.filter fun e => !e.isNote

theorem quiet_append (first second : List (Event Host)) :
    quiet (first ++ second) = quiet first ++ quiet second :=
  List.filter_append first second

namespace Grant

/-! ## Transcripts of what is kept -/

section Transcripts

variable {α β : Type} {kept : Option AdminToken} {events : List (Event Host)}

/-- With these events a computation on what is kept ends, and with this value and this kept. -/
def Keeping.Takes (m : Keeping α) (kept : Option AdminToken) (events : List (Event Host))
    (result : Except Overflow (α × Option AdminToken)) : Prop :=
  Program.Takes (m kept).run events result

theorem takes_pure {a : α} {result : Except Overflow (α × Option AdminToken)} :
    Keeping.Takes (pure a) kept events result ↔ events = [] ∧ result = .ok (a, kept) :=
  Iff.rfl

theorem takes_get {result : Except Overflow (Option AdminToken × Option AdminToken)} :
    Keeping.Takes get kept events result ↔ events = [] ∧ result = .ok (kept, kept) :=
  Iff.rfl

theorem takes_set {t : Option AdminToken} {result : Except Overflow (PUnit × Option AdminToken)} :
    Keeping.Takes (set t) kept events result ↔ events = [] ∧ result = .ok (⟨⟩, t) :=
  Iff.rfl

theorem takes_ask {c : Host.Call} {result : Except Overflow (Host.Answer c × Option AdminToken)} :
    Keeping.Takes (ask c) kept events result ↔
      ∃ answer, events = [⟨c, answer⟩] ∧ result = .ok (answer, kept) := by
  constructor
  · rintro ⟨answer, _, rfl, rfl, rfl⟩
    exact ⟨answer, rfl, rfl⟩
  · rintro ⟨answer, rfl, rfl⟩
    exact ⟨answer, [], rfl, rfl, rfl⟩

/-- A sequence ends with its first part if that leaves the calendar, and else goes on with what was
kept then. -/
theorem takes_bind {m : Keeping α} {f : α → Keeping β}
    {result : Except Overflow (β × Option AdminToken)} :
    Keeping.Takes (m >>= f) kept events result ↔
      ∃ first ending second, events = first ++ second ∧ m.Takes kept first ending ∧
        match ending with
        | .ok (a, kept') => (f a).Takes kept' second result
        | .error o => second = [] ∧ result = .error o := by
  refine Program.takes_bind.trans ?_
  constructor
  · rintro ⟨first, ending, second, rfl, takes_m, takes_f⟩
    refine ⟨first, ending, second, rfl, takes_m, ?_⟩
    cases ending with
    | ok last => exact takes_f
    | error o => exact takes_f
  · rintro ⟨first, ending, second, rfl, takes_m, takes_f⟩
    refine ⟨first, ending, second, rfl, takes_m, ?_⟩
    cases ending with
    | ok last => exact takes_f
    | error o => exact takes_f

end Transcripts

/-! ## Grants -/

/-- What a grant comes to that was requested at an instant and answered. -/
inductive Comes (issuedAt : Instant) : Except String Reply → Except Error AdminToken → Prop
  | failed (cause : String) : Comes issuedAt (.error cause) (.error (networkFailure cause))
  | refused {reply : Reply} {e : Error} (refusal : read reply = .error e) :
    Comes issuedAt (.ok reply) (.error e)
  | granted {reply : Reply} {granted : Granted} {t : AdminToken} (reads : read reply = .ok granted)
    (issued : AdminToken.issue? granted.accessToken issuedAt granted.lifetime = some t) :
    Comes issuedAt (.ok reply) (.ok t)

end Grant

/-- A grant that was requested: when, how that was answered, and what it came to. -/
structure Granting where
  issuedAt : Instant
  answer : Except String Reply
  ending : Except Error AdminToken
  comes : Grant.Comes issuedAt answer ending

namespace Grant

/-- What happens when a grant is requested. -/
def events (g : Grant) (x : Granting) : List (Event Host) :=
  [⟨.now, x.issuedAt⟩, ⟨.exchange g.request, x.answer⟩]

/-- No token that is granted among these events ends outside the calendar. -/
def Fits (g : Grant) (events : List (Event Host)) : Prop :=
  ∀ issuedAt reply granted, [⟨.now, issuedAt⟩, ⟨.exchange g.request, .ok reply⟩] <:+: events →
    read reply = .ok granted →
    (AdminToken.issue? granted.accessToken issuedAt granted.lifetime).isSome

variable {g : Grant} {kept : Option AdminToken} {events : List (Event Host)}

theorem Fits.of_infix {part : List (Event Host)} (fits : g.Fits events) (h : part <:+: events) :
    g.Fits part :=
  fun issuedAt reply granted within => fits issuedAt reply granted (within.trans h)

theorem Fits.of_append {first second : List (Event Host)} (fits : g.Fits (first ++ second)) :
    g.Fits first ∧ g.Fits second :=
  ⟨fits.of_infix (List.prefix_append _ _).isInfix, fits.of_infix (List.suffix_append _ _).isInfix⟩

/-- With these events a token is granted that ends outside the calendar. -/
inductive Overruns (g : Grant) : List (Event Host) → Prop
  | granted {issuedAt : Instant} {reply : Reply} {granted : Granted} {note : Note}
    (reads : read reply = .ok granted)
    (unissued : AdminToken.issue? granted.accessToken issuedAt granted.lifetime = none) :
    Overruns g [⟨.now, issuedAt⟩, ⟨.exchange g.request, .ok reply⟩, ⟨.note note, ()⟩]

theorem Overruns.not_fits {part : List (Event Host)} (h : g.Overruns part) (within : part <:+: events) :
    ¬g.Fits events := by
  intro fits
  cases h with
  | granted reads unissued =>
    have issued := fits.of_infix within _ _ _ ⟨[], _, rfl⟩ reads
    simp [unissued] at issued

/-- Whatever a grant comes to, what is kept stays as it was; it comes to nothing if the token that is
granted ends outside the calendar. -/
theorem takes_fetch {result : Except Overflow (Except Error AdminToken × Option AdminToken)}
    (takes : g.fetch.Takes kept events result) :
    (∃ x : Granting, quiet events = g.events x ∧ result = .ok (x.ending, kept)) ∨
      g.Overruns events ∧ result = .error .outOfCalendar := by
  obtain ⟨_, _, _, rfl, asked, takes⟩ := takes_bind.1 takes
  obtain ⟨issuedAt, rfl, rfl⟩ := takes_ask.1 asked
  obtain ⟨_, _, _, rfl, exchanged, takes⟩ := takes_bind.1 takes
  obtain ⟨answer, rfl, rfl⟩ := takes_ask.1 exchanged
  cases answer with
  | error cause =>
    obtain ⟨rfl, rfl⟩ := takes_pure.1 takes
    exact .inl ⟨⟨issuedAt, _, _, .failed cause⟩, rfl, rfl⟩
  | ok reply =>
    cases reads : read reply with
    | error e =>
      simp only [reads] at takes
      obtain ⟨rfl, rfl⟩ := takes_pure.1 takes
      exact .inl ⟨⟨issuedAt, _, _, .refused reads⟩, rfl, rfl⟩
    | ok granted =>
      simp only [reads] at takes
      obtain ⟨_, _, _, rfl, noted, takes⟩ := takes_bind.1 takes
      obtain ⟨_, rfl, rfl⟩ := takes_ask.1 noted
      cases issued : AdminToken.issue? granted.accessToken issuedAt granted.lifetime with
      | none =>
        simp only [issued] at takes
        obtain ⟨rfl, rfl⟩ := takes
        exact .inr ⟨.granted reads issued, rfl⟩
      | some t =>
        simp only [issued] at takes
        obtain ⟨rfl, rfl⟩ := takes_pure.1 takes
        exact .inl ⟨⟨issuedAt, _, _, .granted reads issued⟩, rfl, rfl⟩

/-! ## Asking for a token -/

theorem needsRefresh_eq (t : AdminToken) (now : Instant) (window : Duration) :
    t.needsRefresh now window.nanos = decide (t.left now ≤ window.nanos) := by
  rw [Bool.eq_iff_iff, decide_eq_true_iff]
  simp only [AdminToken.needsRefresh, AdminToken.isExpiredAt, AdminToken.left, Bool.or_eq_true,
    decide_eq_true_eq]
  omega

/-- What can come of asking for a token at an instant: the grant that is requested, the token that is
handed out, and what is kept then. -/
inductive Obtains (g : Grant) (kept : Option AdminToken) (now : Instant) :
    Option Granting → Except Error Secret → Option AdminToken → Prop
  | taken {t : AdminToken} (cached : kept = some t) (lasts : g.refreshWindow.nanos < t.left now) :
    Obtains g kept now none (.ok t.secret) kept
  | granted (x : Granting) {t : AdminToken}
    (needed : ∀ u, kept = some u → u.left now ≤ g.refreshWindow.nanos) (ending : x.ending = .ok t) :
    Obtains g kept now (some x) (.ok t.secret) (some t)
  | refused (x : Granting) {e : Error}
    (needed : ∀ u, kept = some u → u.left now ≤ g.refreshWindow.nanos)
    (ending : x.ending = .error e) : Obtains g kept now (some x) (.error e) kept

/-- All that asking for a token can do. -/
theorem takes_access_or_overruns
    {result : Except Overflow (Except Error Secret × Option AdminToken)}
    (takes : g.access.Takes kept events result) :
    (∃ now x token kept', quiet events = ⟨.now, now⟩ :: x.toList.flatMap g.events ∧
      result = .ok (token, kept') ∧ g.Obtains kept now x token kept') ∨
    ∃ now overrun, events = ⟨.now, now⟩ :: overrun ∧ g.Overruns overrun ∧
      result = .error .outOfCalendar := by
  obtain ⟨_, _, _, rfl, asked, takes⟩ := takes_bind.1 takes
  obtain ⟨(now : Instant), rfl, rfl⟩ := takes_ask.1 asked
  obtain ⟨_, _, _, rfl, got, takes⟩ := takes_bind.1 takes
  obtain ⟨rfl, rfl⟩ := takes_get.1 got
  dsimp only at takes
  cases cached : kept.filter fun t => !t.needsRefresh now g.refreshWindow.nanos with
  | some t =>
    rw [cached] at takes
    obtain ⟨rfl, rfl⟩ := takes_pure.1 takes
    obtain ⟨rfl, lasts⟩ := Option.filter_eq_some_iff.1 cached
    refine .inl ⟨now, none, _, _, rfl, rfl, .taken rfl ?_⟩
    simpa [needsRefresh_eq] using lasts
  | none =>
    rw [cached] at takes
    have needed : ∀ u, kept = some u → u.left now ≤ g.refreshWindow.nanos := by
      rintro u rfl
      simpa [needsRefresh_eq] using cached
    obtain ⟨first, _, _, rfl, fetched, takes⟩ := takes_bind.1 takes
    obtain ⟨x, exchanged, rfl⟩ | ⟨overruns, rfl⟩ := takes_fetch fetched
    · cases ending : x.ending with
      | error e =>
        rw [ending] at takes
        obtain ⟨rfl, rfl⟩ := takes_pure.1 takes
        refine .inl ⟨now, some x, _, _, ?_, rfl, .refused x needed ending⟩
        change ⟨.now, now⟩ :: quiet (first ++ []) = ⟨.now, now⟩ :: (g.events x ++ [])
        rw [List.append_nil, List.append_nil, exchanged]
      | ok t =>
        rw [ending] at takes
        obtain ⟨_, _, _, rfl, stored, takes⟩ := takes_bind.1 takes
        obtain ⟨rfl, rfl⟩ := takes_set.1 stored
        obtain ⟨rfl, rfl⟩ := takes_pure.1 takes
        refine .inl ⟨now, some x, _, _, ?_, rfl, .granted x needed ending⟩
        change ⟨.now, now⟩ :: quiet (first ++ []) = ⟨.now, now⟩ :: (g.events x ++ [])
        rw [List.append_nil, List.append_nil, exchanged]
    · obtain ⟨rfl, rfl⟩ := takes
      exact .inr ⟨now, first, by simp, overruns, rfl⟩

/-- All that asking for a token can do, where no instant lies outside the calendar. -/
theorem takes_access {result : Except Overflow (Except Error Secret × Option AdminToken)}
    (takes : g.access.Takes kept events result) (fits : g.Fits events) :
    ∃ now x token kept', quiet events = ⟨.now, now⟩ :: x.toList.flatMap g.events ∧
      result = .ok (token, kept') ∧ g.Obtains kept now x token kept' := by
  refine (takes_access_or_overruns takes).resolve_right ?_
  rintro ⟨now, overrun, rfl, overruns, -⟩
  exact overruns.not_fits (List.suffix_cons _ _).isInfix fits

/-- What is kept goes on being the token that is held. -/
theorem Obtains.keeps {history : List Turn} {now : Instant} {x : Option Granting}
    {token : Except Error Secret} {kept' : Option AdminToken} (h : g.Obtains kept now x token kept')
    (keeps : KeepsHeld history kept) :
    KeepsHeld (history ++ x.toList.map fun x => .grant x.ending) kept' := by
  intro t
  cases h with
  | taken cached lasts => simpa using keeps t
  | granted x needed ending =>
    simp [held_append_singleton, ending, eq_comm]
  | refused x needed ending =>
    simpa [held_append_singleton, ending] using keeps t

/-! ## Replies that grant a token -/

section Replies

open Json Json.Record

/-- A reply of which the body shows what is granted is read as that, if it does not say what kind of body
it has. -/
theorem read_of_shows {bytes : List UInt8} {j : Json} {granted : Granted} (shown : Shows bytes j)
    (finds : Finds (Granted.record.decodeOpen deepest) j granted) :
    read ⟨200, none, some bytes⟩ = .ok granted := by
  have found : decodeFirst (Granted.record.decodeOpen deepest) (Utf8.glyphs bytes) = .ok granted :=
    finds _ shown
  have filled : bytes ≠ [] := by
    rintro rfl
    cases shown
  simp [read, Reply.bytes, decodeBody, bind, Except.bind, filled, found]

/-- The members of a document that grants a token and does not say how long it lasts. -/
def bearerMembers (token : Secret) : KeyMap Json :=
  .ofList [("access_token", token.json), ("token_type", .text "bearer")]

theorem finds_bearerMembers (token : Secret) :
    Finds (Granted.record.decodeOpen deepest) (.ofMap (bearerMembers token)) ⟨token, none⟩ := by
  have builds : Granted.record.Builds (bearerMembers token).entries fun _ => ⟨token, none⟩ :=
    builds_of (fun token _ expiresIn _ _ _ => Granted.mk token expiresIn)
      |>.field (by simp [bearerMembers]) token.finds_json
      |>.field (by simp [bearerMembers]) (finds_string "bearer")
      |>.left_out (by simp [bearerMembers])
      |>.left_out (by simp [bearerMembers])
      |>.left_out (by simp [bearerMembers])
  have others : (Granted.record.others (bearerMembers token)).entries = [] := by
    refine List.filter_eq_nil_iff.2 fun e within => ?_
    obtain rfl | rfl := List.mem_pair.1 (KeyMap.mem_of_mem_entries_ofList within)
    · exact Bool.false_ne_true
    · exact Bool.false_ne_true
  exact finds_decodeOpen builds (by simp [others, depthMembers])

/-- Whatever token it is, a reply that grants it is read as that. -/
theorem read_bearer (token : Secret) :
    read ⟨200, none, some (Utf8.encode (Json.ofMap (bearerMembers token)).render)⟩ =
      .ok ⟨token, none⟩ := by
  have plain : Plain (.ofMap (bearerMembers token)) := plain_members (by simp [Secret.json])
  exact read_of_shows (shows_render plain) (finds_bearerMembers token)

end Replies

end Grant

end RealmSetup
