import VendorBuild.Source.Header
import Mathlib.Tactic.SplitIfs

/-!
# Tokens that are accepted

To read a header is to read tokens one after the other and to move the automaton over each, until it
finds the header complete in front of the next one. The two go together only through the tokens, so
what is said of the automaton can be said of sequences of tokens, whatever source they come from.

Results:
* `Progress.place_of_step_none`: where a header can be complete.
* `Header.read_eq_ok_iff`: a header is read if its tokens can be and the automaton accepts them.
-/

namespace VendorBuild

/-! ## Where headers stop -/

/-- Whether a token does nothing but separate. -/
def IsSeparator (k : TokenKind) : Prop := k = .newline ∨ k = .semicolon

/-- Whether a header can stop in front of a token, or of the end of the source. -/
def IsStop (stop : Option TokenKind) : Prop :=
  ∀ k, stop = some k → k ≠ .name "import" ∧ ¬ IsSeparator k

namespace Progress

variable {s : Progress} {h : Header} {k : TokenKind} {stop : Option TokenKind}

theorem step_separator {k : TokenKind} (hk : IsSeparator k) :
    step ⟨.lineEnd, h⟩ (some k) = .ok (some ⟨.declaration, h⟩) ∧
      step ⟨.declaration, h⟩ (some k) = .ok (some ⟨.declaration, h⟩) ∧
      step ⟨.groupItem, h⟩ (some k) = .ok (some ⟨.groupItem, h⟩) ∧
      step ⟨.groupItemEnd, h⟩ (some k) = .ok (some ⟨.groupItem, h⟩) := by
  rcases hk with rfl | rfl <;> exact ⟨rfl, rfl, rfl, rfl⟩

theorem step_declaration_of_isStop (hstop : IsStop stop) :
    step ⟨.declaration, h⟩ stop = .ok none := by
  cases stop with
  | none => rfl
  | some k =>
    obtain ⟨himport, hsep⟩ := hstop k rfl
    cases k <;> simp_all [step, declarationStep, IsSeparator]

/-- A header is complete at the end of a line if the source ends there, and elsewhere only where a
declaration can start. -/
theorem place_of_step_none (hstep : s.step stop = .ok none) :
    s.place = .lineEnd ∧ stop = none ∨ s.place = .declaration ∧ IsStop stop := by
  obtain ⟨place, h⟩ := s
  cases place with
  | lineEnd =>
    simp only [step, lineEndStep] at hstep
    split at hstep
    · cases hstep
    · cases hstep
    · exact .inl ⟨rfl, rfl⟩
    · cases hstep
  | declaration =>
    refine .inr ⟨rfl, ?_⟩
    rintro k rfl
    constructor
    · rintro rfl
      cases hstep
    · intro hk
      rw [(step_separator hk).2.1] at hstep
      cases hstep
  | _ =>
    simp only [step, startStep, packageNameStep, importKeywordStep, importPathStep, groupItemStep,
      groupItemEndStep, startImport, takeImport, goTo] at hstep
    repeat' split at hstep
    all_goals cases hstep

end Progress

/-! ## What is read and what is accepted -/

/-- The tokens that are read one after the other from a place, and what is found behind them:
another token, or `none` at the end of the source. -/
inductive Cursor.Reads : Cursor → List TokenKind → Option TokenKind → Prop
  | stop {cur after : Cursor} {t : Token} (h : cur.next = .token t after) :
      Reads cur [] (some t.kind)
  | finish {cur : Cursor} {line : Nat} (h : cur.next = .finished line) : Reads cur [] none
  | token {cur after : Cursor} {t : Token} {tokens : List TokenKind} {stop : Option TokenKind}
      (h : cur.next = .token t after) (hrest : Reads after tokens stop) :
      Reads cur (t.kind :: tokens) stop

namespace Progress

/-- The places that the automaton comes to over some tokens. -/
inductive Runs : Progress → List TokenKind → Progress → Prop
  | nil {s : Progress} : Runs s [] s
  | cons {s s' t : Progress} {k : TokenKind} {tokens : List TokenKind}
      (h : s.step (some k) = .ok (some s')) (hrest : Runs s' tokens t) : Runs s (k :: tokens) t

/-- Whether the automaton moves over some tokens and finds the header complete before `stop`. -/
inductive Accepts (stop : Option TokenKind) : Progress → List TokenKind → Header → Prop
  | done {s : Progress} (h : s.step stop = .ok none) : Accepts stop s [] s.header
  | move {s s' : Progress} {k : TokenKind} {tokens : List TokenKind} {header : Header}
      (h : s.step (some k) = .ok (some s')) (hrest : Accepts stop s' tokens header) :
      Accepts stop s (k :: tokens) header

theorem Runs.append {s t u : Progress} {front back : List TokenKind} (h : Runs s front t)
    (h' : Runs t back u) : Runs s (front ++ back) u := by
  induction h with
  | nil => exact h'
  | cons hstep _ ih => exact .cons hstep (ih h')

theorem Runs.accepts {s t : Progress} {front back : List TokenKind} {stop : Option TokenKind}
    {header : Header} (h : Runs s front t) (h' : Accepts stop t back header) :
    Accepts stop s (front ++ back) header := by
  induction h with
  | nil => exact h'
  | cons hstep _ ih => exact .move hstep (ih h')

theorem Runs.one {s t : Progress} {k : TokenKind} (h : s.step (some k) = .ok (some t)) :
    Runs s [k] t :=
  .cons h .nil

/-- The automaton moves over tokens that leave it where it is. -/
theorem Runs.stay {s : Progress} {tokens : List TokenKind}
    (h : ∀ k ∈ tokens, s.step (some k) = .ok (some s)) : Runs s tokens s := by
  induction tokens with
  | nil => exact .nil
  | cons k tokens ih =>
    obtain ⟨hk, htokens⟩ := List.forall_mem_cons.1 h
    exact .cons hk (ih htokens)

end Progress

namespace Header

theorem read_of_finished {s : Progress} {cur : Cursor} {line : Nat} (h : cur.next = .finished line)
    (hstep : s.step none = .ok none) : read s cur = .ok s.header := by
  rw [read]
  split <;> simp_all

theorem read_of_stop {s : Progress} {cur after : Cursor} {t : Token} (h : cur.next = .token t after)
    (hstep : s.step (some t.kind) = .ok none) : read s cur = .ok s.header := by
  rw [read]
  split <;> simp_all

theorem read_of_move {s s' : Progress} {cur after : Cursor} {t : Token}
    (h : cur.next = .token t after) (hstep : s.step (some t.kind) = .ok (some s')) :
    read s cur = read s' after := by
  rw [read]
  split <;> simp_all

/-- A header is read exactly if the tokens up to some stop can be read and the automaton accepts
them there. -/
theorem read_eq_ok_iff {s : Progress} {cur : Cursor} {header : Header} :
    read s cur = .ok header ↔
      ∃ tokens stop, cur.Reads tokens stop ∧ s.Accepts stop tokens header := by
  constructor
  · intro h
    fun_induction read s cur with
    | case1 => cases h
    | case2 => cases h
    | case3 s cur line hnext next hstep =>
      cases h
      have hnone : next = none := by
        cases next with
        | none => rfl
        | some t => exact absurd hstep (Progress.step_none s t)
      exact ⟨[], none, .finish hnext, .done (hnone ▸ hstep)⟩
    | case4 => cases h
    | case5 s cur t after hnext hstep =>
      cases h
      exact ⟨[], some t.kind, .stop hnext, .done hstep⟩
    | case6 s cur t after hnext s' hstep ih =>
      obtain ⟨tokens, stop, hreads, haccepts⟩ := ih h
      exact ⟨t.kind :: tokens, stop, .token hnext hreads, .move hstep haccepts⟩
  · rintro ⟨tokens, stop, hreads, haccepts⟩
    induction hreads generalizing s with
    | stop hnext =>
      cases haccepts with
      | done hstep => exact read_of_stop hnext hstep
    | finish hnext =>
      cases haccepts with
      | done hstep => exact read_of_finished hnext hstep
    | token hnext _ ih =>
      cases haccepts with
      | move hstep hrest =>
        rw [read_of_move hnext hstep]
        exact ih hrest

end Header

end VendorBuild
