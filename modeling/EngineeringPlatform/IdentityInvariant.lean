import EngineeringPlatform.IdentityLogins
import EngineeringPlatform.RankedRows
namespace EngineeringPlatform.Identity
open Checked PythonTime KeyedRows RankedRows

-- The steps accepted for one secret increase: between two of them there is a
-- later step or a new secret.
def Increasing (history : List TotpEvent) : Prop :=
  ∀ (i j : Nat) (first later : Int), i < j → history[i]? = some (.accepted first) → history[j]? = some (.accepted later) →
    (∀ k : Nat, i < k → k < j → history[k]? ≠ some .enrolled) → first < later

-- The last step of the current secret bounds every step accepted for it.
def UpTo (history : List TotpEvent) (last : Option Int) : Prop :=
  ∀ (i : Nat) (step : Int), history[i]? = some (.accepted step) → (∀ k : Nat, i < k → history[k]? ≠ some .enrolled) →
    ∃ newest, last = some newest ∧ step ≤ newest

variable {history : List TotpEvent} {sessions : List Session}

theorem concat_getElem {i : Nat} (found : (history ++ [event])[i]? = some other) :
    (i < history.length ∧ history[i]? = some other) ∨ (i = history.length ∧ other = event) := by
  rcases Nat.lt_trichotomy i history.length with before | here | after
  · rw [List.getElem?_append_left before] at found
    exact .inl ⟨before,found⟩
  · subst here
    rw [List.getElem?_concat_length] at found
    exact .inr ⟨rfl,(Option.some.inj found).symm⟩
  · rw [List.getElem?_eq_none (by simp; omega)] at found
    cases found

theorem concat_absent {k : Nat} (absent : (history ++ [event])[k]? ≠ some other) :
    history[k]? ≠ some other := by
  intro found
  have inside : k < history.length := (List.getElem?_eq_some_iff.mp found).1
  exact absent ((List.getElem?_append_left inside).trans found)

theorem Increasing.nil : Increasing [] := fun _ _ _ _ _ found => by simp at found

theorem Increasing.enrolled (increasing : Increasing history) :
    Increasing (history ++ [.enrolled]) := by
  intro i j first later before one two between
  rcases concat_getElem one with ⟨_,one⟩ | ⟨_,absurd⟩
  · rcases concat_getElem two with ⟨_,two⟩ | ⟨_,absurd⟩
    · exact increasing i j first later before one two fun k left right => concat_absent (between k left right)
    · cases absurd
  · cases absurd

theorem UpTo.enrolled : UpTo (history ++ [.enrolled]) last := by
  intro i step found after
  rcases concat_getElem found with ⟨inside,_⟩ | ⟨_,absurd⟩
  · exact absurd (List.getElem?_concat_length (l := history) (a := TotpEvent.enrolled)) (after _ inside)
  · cases absurd

theorem Increasing.accepted (increasing : Increasing history) (bound : UpTo history last)
    (fresh : last.all (· < step) = true) : Increasing (history ++ [.accepted step]) := by
  intro i j first later before one two between
  rcases concat_getElem two with ⟨inside,two⟩ | ⟨rfl,last⟩
  · rcases concat_getElem one with ⟨_,one⟩ | ⟨same,_⟩
    · exact increasing i j first later before one two fun k left right => concat_absent (between k left right)
    · omega
  · rcases concat_getElem one with ⟨_,one⟩ | ⟨same,_⟩
    · obtain ⟨newest,rfl,below⟩ := bound i first one fun k left found =>
        between k left (List.getElem?_eq_some_iff.mp found).1
          ((List.getElem?_append_left (List.getElem?_eq_some_iff.mp found).1).trans found)
      cases last
      have above : newest < step := by simpa using fresh
      omega
    · omega

theorem UpTo.accepted (bound : UpTo history last) (fresh : last.all (· < step) = true) :
    UpTo (history ++ [.accepted step]) (some step) := by
  intro i first found after
  rcases concat_getElem found with ⟨_,found⟩ | ⟨_,same⟩
  · obtain ⟨newest,rfl,below⟩ := bound i first found fun k left => concat_absent (after k left)
    have above : newest < step := by simpa using fresh
    exact ⟨step,rfl,by omega⟩
  · cases same
    exact ⟨step,rfl,le_refl _⟩

-- The live FULL sessions of one account: no more than the cap, and none older than
-- one that was evicted.
structure SessionsValid (sessions : List Session) (cap : Int) : Prop where
  ids : KeyedRows.Unique Session.id sessions
  tokens : KeyedRows.Unique Session.tokenHash sessions
  capped : (sessions.countP Session.liveFull : Int) ≤ cap
  newest : ∀ gone ∈ sessions, gone.revokeReason = some "SESSION_CAP" →
    ∀ row ∈ sessions, row.liveFull = true → gone.createdAt ≤ row.createdAt

theorem Session.Kept.liveFull {old new : Session} (kept : old.Kept new) (live : new.liveFull = true) :
    old.liveFull = true := by
  unfold Session.liveFull at live ⊢
  simp only [decide_eq_true_eq] at live ⊢
  exact ⟨kept.live live.1,kept.kind ▸ live.2⟩

theorem map_unique {κ : Type} [DecidableEq κ] {key : Session → κ} {change : Session → Session}
    (keeps : ∀ row, key (change row) = key row) (unique : KeyedRows.Unique key sessions) : KeyedRows.Unique key (sessions.map change) := by
  unfold KeyedRows.Unique at unique ⊢
  rw [List.map_map,show key ∘ change = key from funext keeps]
  exact unique

theorem SessionsValid.kept (valid : SessionsValid sessions cap) (keeps : Keeps change) :
    SessionsValid (sessions.map change) cap := by
  refine ⟨map_unique (fun row => (keeps row).id) valid.ids,map_unique (fun row => (keeps row).tokenHash) valid.tokens,?_,?_⟩
  · refine le_trans ?_ valid.capped
    rw [List.countP_map]
    exact Int.ofNat_le.mpr (List.countP_mono_left fun row _ live => (keeps row).liveFull live)
  · intro gone member evicted row there live
    obtain ⟨gone,before,rfl⟩ := List.mem_map.mp member
    obtain ⟨row,listed,rfl⟩ := List.mem_map.mp there
    rw [(keeps gone).createdAt,(keeps row).createdAt]
    exact valid.newest gone before ((keeps gone).evicted evicted) row listed ((keeps row).liveFull live)

theorem concat_unique {κ ρ : Type} [DecidableEq κ] {key : ρ → κ} {rows : List ρ} {fresh : ρ} (unique : KeyedRows.Unique key rows)
    (unused : ∀ row ∈ rows, key row ≠ key fresh) : KeyedRows.Unique key (rows ++ [fresh]) := by
  unfold KeyedRows.Unique at unique ⊢
  rw [List.map_append,List.nodup_append]
  refine ⟨unique,by simp,fun used member other single same => ?_⟩
  obtain ⟨row,there,rfl⟩ := List.mem_map.mp member
  exact unused row there (same.trans (by simpa using single))

-- The rows before a new session is opened.
structure Unused (sessions : List Session) (fresh : Session) : Prop where
  id : ∀ row ∈ sessions, row.id ≠ fresh.id
  tokenHash : ∀ row ∈ sessions, row.tokenHash ≠ fresh.tokenHash

theorem Opened.fresh {db : Database} {account : Account} {session : Session} (member : account ∈ db.accounts)
    (opened : Opened db session shape why issued) : Unused account.sessions session := by
  have others (row : Session) (there : row ∈ account.sessions) : row.id ≠ session.id ∧ row.tokenHash ≠ session.tokenHash := by
    have unused := List.all_eq_true.mp (List.all_eq_true.mp opened.unused account member) row there
    simpa using unused
  exact ⟨fun row there => (others row there).1,fun row there => (others row there).2⟩

theorem SessionsValid.bootstrap (valid : SessionsValid sessions cap)
    (unused : Unused sessions session) (opened : Opened db session .bootstrap purpose issued) :
    SessionsValid (sessions ++ [session]) cap := by
  have notFull : session.liveFull = false := by simp [Session.liveFull,opened.kind]
  refine ⟨concat_unique valid.ids unused.id,concat_unique valid.tokens unused.tokenHash,?_,?_⟩
  · simpa [List.countP_append,notFull] using valid.capped
  · intro gone member evicted row there live
    rcases List.mem_append.mp member with member | single
    · rcases List.mem_append.mp there with there | single
      · exact valid.newest gone member evicted row there live
      · rw [List.mem_singleton.mp single,notFull] at live
        cases live
    · rw [List.mem_singleton.mp single,opened.reason] at evicted
      cases evicted

theorem newer_ranking (ids : KeyedRows.Unique Session.id sessions) :
    Ranking Session.newer (sessions.filter Session.liveFull) := by
  refine ⟨fun row => by simp [Session.newer],fun one two three first second => ?_,fun one member two there differs => ?_⟩
  · unfold Session.newer at first second ⊢
    simp only [decide_eq_true_eq] at first second ⊢
    rcases first with first | ⟨first,earlier⟩
    · rcases second with second | ⟨second,_⟩
      · exact .inl (lt_trans second first)
      · exact .inl (second ▸ first)
    · rcases second with second | ⟨second,before⟩
      · exact .inl (first ▸ second)
      · exact .inr ⟨first.trans second,lt_trans before earlier⟩
  · have ids : one.id ≠ two.id := fun same => differs
      (List.inj_on_of_nodup_map ids (List.mem_of_mem_filter member) (List.mem_of_mem_filter there) same)
    unfold Session.newer
    simp only [decide_eq_true_eq]
    rcases lt_trichotomy one.createdAt two.createdAt with before | same | after
    · exact .inr (.inl before)
    · rcases Nat.lt_or_gt_of_ne ids with before | after
      · exact .inr (.inr ⟨same.symm,before⟩)
      · exact .inl (.inr ⟨same,after⟩)
    · exact .inl (.inl after)

theorem newestRank_rank (account : Account) (row : Session) :
    account.newestRank row = rank Session.newer (account.sessions.filter Session.liveFull) row + 1 := by
  unfold Account.newestRank rank
  rw [List.countP_filter,List.countP_eq_length_filter]
  congr 2
  refine List.filter_congr fun other _ => ?_
  simp [Bool.and_comm]

-- What the eviction does to one row.
theorem evicted_row (account : Account) (cap : Int) (now : Instant) :
    (account.evictOldFullSessions cap now).sessions = account.sessions.map fun row =>
      if row.liveFull = true ∧ cap < account.newestRank row then row.revoke now "SESSION_CAP" else row := by
  unfold Account.evictOldFullSessions Account.updateSessions
  simp

theorem evictOldFullSessions_valid {account : Account} (ids : KeyedRows.Unique Session.id account.sessions)
    (tokens : KeyedRows.Unique Session.tokenHash account.sessions) (forward : 0 ≤ cap)
    (newest : ∀ gone ∈ account.sessions, gone.revokeReason = some "SESSION_CAP" →
      ∀ row ∈ account.sessions, row.liveFull = true → gone.createdAt ≤ row.createdAt) :
    SessionsValid (account.evictOldFullSessions cap now).sessions cap := by
  have ranking := newer_ranking ids
  have nodup : (account.sessions.filter Session.liveFull).Nodup := (List.Nodup.of_map _ ids).filter _
  have stays {row : Session} (live : (if row.liveFull = true ∧ cap < account.newestRank row then
      row.revoke now "SESSION_CAP" else row).liveFull = true) :
      row.liveFull = true ∧ ↑(account.newestRank row) ≤ cap := by
    split at live
    · simp [Session.liveFull,Session.revoke,Session.live] at live
    · rename_i within
      exact ⟨live,by_contra fun beyond => within ⟨live,by omega⟩⟩
  rw [evicted_row]
  refine ⟨map_unique (fun row => by split <;> rfl) ids,map_unique (fun row => by split <;> rfl) tokens,?_,?_⟩
  · rw [List.countP_map]
    have few := kept_le ranking nodup cap.toNat
    rw [List.countP_filter] at few
    have counted : account.sessions.countP (Session.liveFull ∘ fun row =>
        if row.liveFull = true ∧ cap < account.newestRank row then row.revoke now "SESSION_CAP" else row) ≤
        account.sessions.countP fun row => decide (rank Session.newer (account.sessions.filter Session.liveFull) row <
          cap.toNat) && row.liveFull := by
      refine List.countP_mono_left fun row _ live => ?_
      obtain ⟨live,within⟩ := stays live
      rw [newestRank_rank] at within
      simp only [Bool.and_eq_true,decide_eq_true_eq]
      exact ⟨by omega,live⟩
    omega
  · intro gone member evicted row there live
    obtain ⟨gone,before,rfl⟩ := List.mem_map.mp member
    obtain ⟨row,listed,rfl⟩ := List.mem_map.mp there
    obtain ⟨live,within⟩ := stays live
    have created (other : Session) : (if other.liveFull = true ∧ cap < account.newestRank other then
        other.revoke now "SESSION_CAP" else other).createdAt = other.createdAt := by
      split <;> rfl
    rw [created,created]
    split at evicted
    · rename_i beyond
      rw [newestRank_rank] at within beyond
      have inside : rank Session.newer (account.sessions.filter Session.liveFull) row < cap.toNat := by omega
      have older := not_newer ranking (List.mem_filter.mpr ⟨before,beyond.1⟩) (by omega) inside
      unfold Session.newer at older
      simp only [decide_eq_false_iff_not,not_or] at older
      exact not_lt.mp older.1
    · exact newest gone before evicted row listed live

theorem SessionsValid.full {account : Account} (valid : SessionsValid account.sessions account.sessionCap)
    (unused : Unused account.sessions session) (opened : Opened db session .full none issued)
    (dated : ∀ row ∈ account.sessions, row.createdAt ≤ issued) (forward : 0 ≤ cap) :
    SessionsValid (account.openFull session cap now).sessions (account.openFull session cap now).sessionCap := by
  refine @evictOldFullSessions_valid _ _ {account with sessions := account.sessions ++ [session]}
    (concat_unique valid.ids unused.id) (concat_unique valid.tokens unused.tokenHash) forward ?_
  intro gone member evicted row there live
  rcases List.mem_append.mp member with member | single
  · rcases List.mem_append.mp there with there | single
    · exact valid.newest gone member evicted row there live
    · rw [List.mem_singleton.mp single,opened.createdAt]
      exact dated gone member
  · rw [List.mem_singleton.mp single,opened.reason] at evicted
    cases evicted

end EngineeringPlatform.Identity
