import MessageCatalog.Proofs.Session.BundleFiles
import MessageCatalog.Proofs.Session.History

/-! Which keys are shipped to a target, and which translations a bundle has of them. -/

namespace MessageCatalog

namespace Session

section

variable {session : Session} {targets : List Path} {target file : Path} {key : Key}

end

section

variable {δ : Type} [Disk δ] {view : DiskView δ} {spared : Session → Path → Prop}
  {start now moment : Session × World δ} {past : List (Session × World δ)}

/-- What happens leaves files with fewer keys, or makes the index anew. -/
theorem Happens.fewerKeys (happens : Happens view spared moment now) :
    FewerKeys moment.1 now.1 ∨ now.1.IsFresh := by
  have same {after : Session} (kept : after.index = moment.1.index) : FewerKeys moment.1 after := by
    rw [FewerKeys, kept]
    exact fun _ _ => id
  cases happens with
  | others => exact .inl (same rfl)
  -- Only a reading touches the index.
  | @read session after world later changed outcome ran =>
    rcases read_cases ran with ⟨_, -, went⟩ | ⟨-, rfl, -, -⟩ | ⟨_, _, _, rfl, -, -, -⟩
    · -- The reading failed before the index was made.
      have fewer := (fewerKeys_readChanges changed !session.hasRead).of_ran went
      exact .inl fewer
    · exact .inl (same rfl)
    · exact .inr (isFresh_of_read_true ran)
  | write ran => exact .inl (same (by rw [keepsReading_write.of_ran ran]))
  | close ran => exact .inl (same (by rw [eq_of_close ran]))

/-- The keys of a file are those that a scan found in a text that the session had of it. -/
theorem History.scanned (history : History view spared start (now :: past))
    (blank : start.1.index = {}) {file : Path} {keys : SortedSet Key}
    (known : now.1.index.keysByFile.get? file = some keys) :
    ∃ moment ∈ now :: past, ∃ text, moment.1.sources.get? file = some text ∧
      Index.scannedKeys now.1.functions text = some keys := by
  generalize told : now :: past = moments at history
  -- By induction on the history: the keys that are known now were scanned at some moment.
  induction history generalizing now past with
  | start =>
    cases told
    rw [blank] at known
    cases known
  | @next last moment past earlier happens ih =>
    cases told
    -- Each moment keeps keys or drops some, or it makes the index from the texts of just then.
    rcases happens.fewerKeys with fewer | fresh
    · obtain ⟨witness, member, text, held, scanned⟩ := ih (fewer file keys known) rfl
      refine ⟨witness, .tail _ member, text, held, ?_⟩
      rw [happens.sameSettings.2.1]
      exact scanned
    · rw [fresh, Index.get?_keysByFile] at known
      obtain ⟨text, held, scanned⟩ := Option.bind_eq_some_iff.1 known
      exact ⟨last, .head _, text, held, scanned⟩

end

end Session

end MessageCatalog
