import Mathlib
import RealmSetup.Proofs.Auth.Tokens

/-!
# When a token ends

The end of a token is the instant at which it was issued, moved on by its lifetime.  A server names the
lifetime as a number of seconds; one that takes all of 64 bits is not counted, and neither is a lifetime
that is not positive, and a minute stands for it then.  Every other lifetime is counted as it is, whether
or not the calendar reaches so far.  Before its last year a minute always fits, so that a token has no
end exactly if its lifetime is counted and is too long (`issue?_eq_none_iff`).

Asking for a token does nothing else that could leave the calendar (`takes_access_or_overruns`).  It
therefore comes to a token or to an error unless the server grants a token that is to outlive the
calendar, and in that case it comes to neither (`access_overflows_iff`).
-/

namespace RealmSetup

/-- The beginning of the year 9999. -/
def Instant.lastYear : Instant := ⟨253370764800 * 1000000000⟩

/-- An instant of the calendar before its last year. -/
def Instant.Early (t : Instant) : Prop := t.InRange ∧ t.nanos < lastYear.nanos

theorem Instant.add?_eq_none_iff {t : Instant} {nanos : Int} :
    t.add? nanos = none ↔ ¬InRange ⟨t.nanos + nanos⟩ := by
  simp [add?]

namespace Grant

/-! ## Lifetimes -/

/-- The lifetime that is granted is counted, and ends after the calendar for a token issued at that
instant. -/
def Granted.Outlives (granted : Granted) (issuedAt : Instant) : Prop :=
  ∃ secs, granted.expiresIn = some secs ∧ secs < UInt64.size / 2 ∧
    Instant.last.nanos < issuedAt.nanos + secs * 1000000000

/-- What a lifetime comes to: it is counted, or a minute stands for it. -/
theorem effectiveLifetime_eq (granted : Granted) :
    AdminToken.effectiveLifetime granted.lifetime =
      match granted.expiresIn.filter fun secs => 0 < secs ∧ secs < UInt64.size / 2 with
      | some secs => (secs : Int) * 1000000000
      | none => AdminToken.fallbackLifetime := by
  cases given : granted.expiresIn with
  | none => simp [Granted.lifetime, given, AdminToken.effectiveLifetime]
  | some secs =>
    simp only [Granted.lifetime, given, Option.bind_some, Option.filter_some]
    by_cases counted : secs < UInt64.size / 2
    · obtain rfl | positive := Nat.eq_zero_or_pos secs
      · rfl
      · have lasts : (0 : Int) < secs * 1000000000 := by omega
        simp [counted, positive, AdminToken.effectiveLifetime, lasts]
    · simp [counted, AdminToken.effectiveLifetime]

/-- Before the last year of the calendar, a token has no end exactly if its lifetime is counted and is
too long. -/
theorem issue?_eq_none_iff {granted : Granted} {issuedAt : Instant} (early : issuedAt.Early) :
    AdminToken.issue? granted.accessToken issuedAt granted.lifetime = none ↔
      granted.Outlives issuedAt := by
  obtain ⟨⟨low, high⟩, before⟩ := early
  simp only [Instant.first, Instant.last, Instant.lastYear] at low high before
  rw [AdminToken.issue?, Option.map_eq_none_iff, Instant.add?_eq_none_iff, effectiveLifetime_eq]
  cases counted : granted.expiresIn.filter fun secs => 0 < secs ∧ secs < UInt64.size / 2 with
  | none =>
    have fits : Instant.InRange ⟨issuedAt.nanos + AdminToken.fallbackLifetime⟩ := by
      constructor <;> simp only [Instant.first, Instant.last, AdminToken.fallbackLifetime] <;> omega
    refine iff_of_false (not_not_intro fits) ?_
    rintro ⟨secs, given, short, ends⟩
    rw [given, Option.filter_eq_none_iff] at counted
    have positive : ¬(0 < secs ∧ secs < UInt64.size / 2) := by simpa using counted secs
    simp only [Instant.last] at ends
    omega
  | some secs =>
    obtain ⟨given, positive, short⟩ :
        granted.expiresIn = some secs ∧ 0 < secs ∧ secs < UInt64.size / 2 := by
      simpa using Option.filter_eq_some_iff.1 counted
    simp only [Instant.InRange, Granted.Outlives, given, Instant.first, Instant.last]
    constructor
    · exact fun ends => ⟨secs, rfl, short, by omega⟩
    · rintro ⟨_, ⟨⟩, -, ends⟩
      omega

/-! ## Asking for a token -/

/-- What asking for a token comes to, and what happens then, under a behaviour of the surroundings. -/
def obtain (g : Grant) (kept : Option AdminToken) (b : Behaviour Host) :
    Except Overflow (Except Error Secret × Option AdminToken) × List (Event Host) :=
  (g.access kept).run.eval b.recorded []

/-- Whenever it is read, the clock stands before the last year of the calendar. -/
def KeepsEarly (b : Behaviour Host) : Prop :=
  ∀ past, Instant.Early (b past .now)

theorem takes_obtain (g : Grant) (kept : Option AdminToken) (b : Behaviour Host) :
    g.access.Takes kept (g.obtain kept b).2 (g.obtain kept b).1 := by
  obtain ⟨events, recorded, takes⟩ := Program.takes_recorded b (g.access kept).run []
  obtain rfl : (g.obtain kept b).2 = events := recorded
  exact takes

theorem early_of_mem_obtain {g : Grant} {kept : Option AdminToken} {b : Behaviour Host}
    (early : KeepsEarly b) {t : Instant} (within : ⟨.now, t⟩ ∈ (g.obtain kept b).2) : t.Early := by
  obtain ⟨past, answered⟩ := Program.answer_of_mem_recorded b _ within List.not_mem_nil
  obtain rfl : t = b past .now := answered
  exact early past

/-- A grant that came to anything granted no token without an end. -/
theorem Comes.issued {issuedAt : Instant} {reply : Reply} {granted : Granted}
    {ending : Except Error AdminToken} (comes : Comes issuedAt (.ok reply) ending)
    (reads : read reply = .ok granted) :
    AdminToken.issue? granted.accessToken issuedAt granted.lifetime ≠ none := by
  cases comes with
  | refused refusal => cases reads.symm.trans refusal
  | granted reads' issued =>
    obtain rfl := Except.ok.inj (reads.symm.trans reads')
    simp [issued]

/-- Before the last year of the calendar, asking for a token comes to a token or to an error unless the
server grants a token whose lifetime is counted and reaches beyond the calendar; then it comes to
neither. -/
theorem access_overflows_iff (g : Grant) (kept : Option AdminToken) (b : Behaviour Host)
    (early : KeepsEarly b) :
    (g.obtain kept b).1 = .error .outOfCalendar ↔
      ∃ now issuedAt reply granted,
        quiet (g.obtain kept b).2 =
          [⟨.now, now⟩, ⟨.now, issuedAt⟩, ⟨.exchange g.request, .ok reply⟩] ∧
        read reply = .ok granted ∧ granted.Outlives issuedAt := by
  constructor
  · intro overflows
    obtain ⟨_, _, _, _, -, answered, -⟩ | ⟨now, part, happened, overruns, -⟩ :=
      takes_access_or_overruns (g.takes_obtain kept b)
    · cases overflows.symm.trans answered
    · have within : part ⊆ (g.obtain kept b).2 := happened ▸ List.subset_cons_self _ _
      rw [happened]
      cases overruns with
      | @granted issuedAt reply granted _ reads unissued =>
        have asked := early_of_mem_obtain early (within (List.mem_cons_self ..))
        exact ⟨now, issuedAt, reply, granted, rfl, reads, (issue?_eq_none_iff asked).1 unissued⟩
  · rintro ⟨now, issuedAt, reply, granted, happened, reads, outlives⟩
    obtain ⟨_, x, _, _, told, -, -⟩ | ⟨_, _, -, -, overflows⟩ :=
      takes_access_or_overruns (g.takes_obtain kept b)
    · have within : (⟨.now, issuedAt⟩ : Event Host) ∈ quiet (g.obtain kept b).2 := by
        rw [happened]
        exact List.mem_cons_of_mem _ (List.mem_cons_self ..)
      have asked := early_of_mem_obtain early (List.mem_of_mem_filter within)
      obtain _ | ⟨_, answer, ending, comes⟩ := x
      · simp [happened] at told
      · obtain ⟨-, requested, answered⟩ := by simpa [happened, events] using told
        cases requested
        cases answered
        exact absurd ((issue?_eq_none_iff asked).2 outlives) (comes.issued reads)
    · exact overflows

/-! ### A lifetime of ten thousand years -/

/-- A grant for an administrator of a server on the same machine. -/
def localGrant : Grant where
  tokenUrl := ⟨"http", "", "", some "localhost", none, .segments ["token"], false, none, none⟩
  clientId := "admin-cli"
  username := "admin"
  password := ⟨"password"⟩
  refreshWindow := .ofSecs 30

/-- A reply that grants a token for a number of seconds. -/
def lastingReply (secs : Nat) : Reply where
  status := 200
  contentType := none
  body := some (Utf8.encode (Json.members
    [("access_token", .text "t"), ("expires_in", .nat secs), ("token_type", .text "bearer")]).render)

/-- The clock stands at the beginning of 1970, and a token is granted for a number of seconds. -/
def lasting (secs : Nat) : Behaviour Host := fun _ call =>
  match call with
  | .exchange _ => .ok (lastingReply secs)
  | .now => (⟨0⟩ : Instant)
  | .elapsed => Duration.zero
  | .sleep _ => ()
  | .drawSeed => (0 : Nat)
  | .drawId => (0 : Nat)
  | .note _ => ()

theorem keepsEarly_lasting (secs : Nat) : KeepsEarly (lasting secs) :=
  fun _ => show Instant.Early ⟨0⟩ by constructor <;> decide

def tenThousandYears : Nat := 10000 * 365 * 86400

theorem obtain_tenThousandYears :
    (localGrant.obtain none (lasting tenThousandYears)).1 = .error .outOfCalendar := by cbv

theorem tenThousandYears_outlive :
    ∃ now issuedAt reply granted,
      quiet (localGrant.obtain none (lasting tenThousandYears)).2 =
        [⟨.now, now⟩, ⟨.now, issuedAt⟩, ⟨.exchange localGrant.request, .ok reply⟩] ∧
      read reply = .ok granted ∧ granted.Outlives issuedAt :=
  (access_overflows_iff localGrant none (lasting tenThousandYears)
    (keepsEarly_lasting tenThousandYears)).1 obtain_tenThousandYears

/-- The token of a reply that is read as a grant for ten thousand years is neither handed out nor
refused. -/
theorem tenThousandYears_overflow :
    KeepsEarly (lasting tenThousandYears) ∧
      read (lastingReply tenThousandYears) = .ok ⟨⟨"t"⟩, some tenThousandYears⟩ ∧
      (localGrant.obtain none (lasting tenThousandYears)).1 = .error .outOfCalendar :=
  ⟨keepsEarly_lasting tenThousandYears, by cbv, obtain_tenThousandYears⟩

end Grant

end RealmSetup
