import WordHunt.Command.Perform
import WordHunt.Proofs.Clues.Canonical

/-!
# Compiling what was compiled

What a compile command prints is the canonical text of its clues with a comment below it.  The
comment begins with a character of no form and is passed over, so the clues of the printed text are
those of the canonical text, and they are printed as before.
-/

namespace WordHunt

open Text

variable {σ : Type}

/-! ## The comment -/

namespace Clues

theorem clueLines_of_comment {comment : String} (h : '\n' ∉ comment.toList) :
    clueLines ("#" ++ comment) = [] := by
  have hnumber : upperChar '#' = ['#'] := rfl
  have hpieces : ("#" ++ comment).toList.splitOn '\n' = ['#' :: comment.toList] := by
    have hfree : '\n' ∉ ("#" ++ comment).toList := by simpa using h
    simpa using List.splitOn_eq_singleton hfree
  obtain ⟨rest, hrest⟩ := exists_trim_cons (c := '#') (by decide) comment.toList
  rw [clueLines_eq, cleanLines, hpieces, List.map_singleton, hrest, upper, List.flatMap_cons,
    hnumber, List.filterMap_cons_none, List.filterMap_nil]
  apply ClueLine.read?_of_head
  simp
  decide

theorem lineFeed_notMem_toText {seed : Seed} (hletter : isCapital seed.letter = true) :
    '\n' ∉ seed.toText.toList := by
  have hcapital : '\n' ≠ seed.letter := by
    intro hsame
    rw [← hsame] at hletter
    cases hletter
  have hdigits : '\n' ∉ numeral (placeNumber seed.position) := by
    intro hmem
    exact absurd (isDigit_of_mem_numeral hmem) (by decide)
  simpa [Seed.toText, numeralText] using ⟨hcapital, hdigits⟩

theorem clueLines_seedComment {seed? : Option Seed}
    (h : ∀ seed ∈ seed?, isCapital seed.letter = true) : clueLines (seedComment seed?) = [] := by
  have hcomment : ∃ comment, '\n' ∉ comment.toList ∧
      seedComment seed? = "#" ++ comment ++ "\n" ++ "" := by
    cases seed? with
    | none =>
        refine ⟨" seed: none (add an '<LETTER> AT <N>' rule)", by decide, ?_⟩
        decide
    | some seed =>
        refine ⟨" seed: " ++ seed.toText, ?_, ?_⟩
        · simpa using lineFeed_notMem_toText (h seed rfl)
        · rw [← String.toList_inj]
          simp [seedComment]
  obtain ⟨comment, hfeed, heq⟩ := hcomment
  have hend : clueLines "" = [] := rfl
  rw [heq, clueLines_append, clueLines_of_comment hfeed, hend, List.append_nil]

theorem isCapital_seed {clues : Clues} (h : clues.Printable) :
    ∀ seed ∈ clues.seed?, isCapital seed.letter = true := by
  intro seed hseed
  obtain ⟨hentry, -⟩ := (clues.seed?_eq_some_iff seed).mp hseed
  exact (h.exact seed.position seed.letter hentry).1

end Clues

/-! ## The printed text -/

theorem ofText_compiledText (text : String) :
    Clues.ofText (compiledText text) =
      { Clues.ofText text with absent := (Clues.ofText text).absent.eraseDups } := by
  have hprintable := Clues.ofText_printable text
  have hcomment := Clues.clueLines_seedComment (Clues.isCapital_seed hprintable)
  have hlines : Clues.clueLines (compiledText text) =
      Clues.clueLines (Clues.ofText text).toText := by
    rw [compiledText, Clues.clueLines_append, hcomment, List.append_nil]
  rw [← hprintable.ofText_toText, Clues.ofText, hlines]
  rfl

theorem compiledText_compiledText (text : String) :
    compiledText (compiledText text) = compiledText text := by
  rw [compiledText, ofText_compiledText, Clues.toText_eraseDups]
  rfl

/-! ## The command -/

section Command

variable {surroundings : Surroundings} {arguments : List String} {config : Option String}
  {file text : String}

theorem perform_compile
    (hcommand : Invocation.ofArguments? arguments = some (.command config (.compile file)))
    (hread : (surroundings.read file).1 = .ok text) (partner : Partner σ) (state : σ) :
    ((perform surroundings arguments).hold partner state).value =
      { code := 0, output := compiledText text } := by
  rw [hold_perform_value hcommand, Command.perform, hread]
  rfl

variable {again : Surroundings} {laterArguments : List String} {laterConfig : Option String}
  {laterFile : String}

/-- A compile command that reads what another one has printed prints the same. -/
theorem compile_prints_fixpoint {τ : Type} (partner : Partner σ) (state : σ)
    (laterPartner : Partner τ) (laterState : τ)
    (hcommand : Invocation.ofArguments? arguments = some (.command config (.compile file)))
    (hread : (surroundings.read file).1 = .ok text)
    (hagain : Invocation.ofArguments? laterArguments =
      some (.command laterConfig (.compile laterFile)))
    (hreads : (again.read laterFile).1 =
      .ok ((perform surroundings arguments).hold partner state).value.output) :
    ((perform surroundings arguments).hold partner state).value =
        { code := 0, output := compiledText text } ∧
      ((perform again laterArguments).hold laterPartner laterState).value =
        ((perform surroundings arguments).hold partner state).value := by
  have hfirst := perform_compile hcommand hread partner state
  have hsecond := perform_compile hagain hreads laterPartner laterState
  rw [hfirst] at hsecond ⊢
  refine ⟨rfl, ?_⟩
  rw [hsecond, compiledText_compiledText]

end Command

-- The letters are named twice, and no letter is settled.
theorem compile_prints_fixpoint_sample :
    let surroundings : String → Surroundings := fun text =>
      { file := fun _ => .error .missing
        input := text.toUTF8
        environment := [] }
    let partner := Partner.script fun _ => { outcome := .timedOut }
    let print := fun text =>
      ((perform (surroundings text) ["compile", "-"]).hold partner []).value
    let text := "no s, t\nno s"
    let printed := "NO S, T\nLENGTH: 5\n# seed: none (add an '<LETTER> AT <N>' rule)\n"
    Invocation.ofArguments? ["compile", "-"] = some (.command none (.compile "-")) ∧
      ((surroundings text).read "-").1 = .ok text ∧
      ((surroundings printed).read "-").1 = .ok printed ∧
      print text = { code := 0, output := printed } ∧ print printed = print text := by
  intro surroundings partner print text printed
  have hcommand : Invocation.ofArguments? ["compile", "-"] =
      some (.command none (.compile "-")) := by
    decide +kernel
  have hread : ((surroundings text).read "-").1 = .ok text := by decide +kernel
  have hreads : ((surroundings printed).read "-").1 = .ok printed := by decide +kernel
  have hprinted : print text = { code := 0, output := printed } := by decide +kernel
  have hfed : ((surroundings printed).read "-").1 = .ok (print text).output := by
    rw [hreads, hprinted]
  obtain ⟨-, hsame⟩ :=
    compile_prints_fixpoint partner [] partner [] hcommand hread hcommand hfed
  exact ⟨hcommand, hread, hreads, hprinted, hsame⟩

end WordHunt
