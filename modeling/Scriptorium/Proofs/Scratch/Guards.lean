import Mathlib.Logic.Relation
import Scriptorium.Proofs.Scratch.Directory

/-! Guards over scratch files. A staged source has a guard; while the guard lives the source stands
in the scratch directory, and when it is dropped, by a panic or not, its files go. Guards of any
units overlap in any order in the one directory, and what keeps them apart are the tokens in the
names: one turn changes entries of one token only, and so at any moment of a run the directory is
what it was at the beginning and what the live guards hold. -/

namespace Scriptorium

open FileTree (refusal?)
open Relation (ReflTransGen)
open Scratch (IsToken fileName stem)

/-- A staged source and what is known about its files. -/
structure Guard where
  unitName : Text
  token : Text
  source : Text
  withOutput : Bool
  /-- What was written at the reserved path. -/
  output : Option Bytes := none

namespace Guard

def files (s : Stager) (g : Guard) : Staged := s.paths g.unitName g.token g.withOutput

def name (g : Guard) (ending : Text) : Text := fileName (stem g.unitName g.token) ending

/-- What stands under the name with this ending. If sources and units have one ending, an output goes
over the source. -/
def content? (s : Stager) (g : Guard) (ending : Text) : Option Bytes :=
  if ending = s.unitExtension ∧ g.output.isSome then g.output
  else if ending = s.sourceExtension then some (Text.encode g.source)
  else none

end Guard

/-- A moment of a run: the world, the guards that live, and those that were dropped. -/
structure Scene where
  world : World
  guards : List Guard := []
  past : List Guard := []

/-- One turn in a run over a scratch directory that nobody else touches. -/
inductive Turn (s : Stager) : Scene → Scene → Prop
  | staged {σ : Scene} {unitName source : Text} {withOutput : Bool} {f : Staged} {w : World}
      (h : s.stage unitName source withOutput σ.world = (.ok f, w)) :
      Turn s σ ⟨w, ⟨unitName, σ.world.freshName σ.world.drawn, source, withOutput, none⟩ :: σ.guards,
        σ.past⟩
  | unstaged {σ : Scene} {unitName source : Text} {withOutput : Bool} {halt : Halt} {w : World}
      (h : s.stage unitName source withOutput σ.world = (.error halt, w)) :
      Turn s σ { σ with world := w }
  /-- Whoever has the guard writes at the reserved path, and `kept` is what stands there then. -/
  | written {w : World} {t : FileTree} {before after past : List Guard} {g : Guard} {path : Text}
      {content kept : Bytes} (hpath : (g.files s).output = some path)
      (hwrite : (w.files.write path content).2 = t) (hread : t.read path = .ok kept) :
      Turn s ⟨w, before ++ g :: after, past⟩
        ⟨{ w with files := t }, before ++ { g with output := some kept } :: after, past⟩
  | dropped {w : World} {before after past : List Guard} {g : Guard} :
      Turn s ⟨w, before ++ g :: after, past⟩
        ⟨s.discard (g.files s) w, before ++ after, g :: past⟩
  /-- A panic drops the guards of the frames that it leaves. -/
  | unwound {w w' : World} {before after past : List Guard} {g : Guard} {message : Text}
      (h : Act.always (Act.panic message : Act Unit) (s.discard (g.files s)) w =
        (.error (.panic message), w')) :
      Turn s ⟨w, before ++ g :: after, past⟩ ⟨w', before ++ after, g :: past⟩
  /-- Time goes by, and somebody takes notes. -/
  | passed {σ : Scene} {signals : Signals} {notes : List Note} :
      Turn s σ { σ with world := { σ.world with signals, notes } }

/-- Nothing has been reported since `w₀` but paths that the system does not take. -/
def Reported (s : Stager) (w₀ w : World) : Prop :=
  ∃ rs, w.reports = w₀.reports ++ rs ∧
    ∀ r ∈ rs, ∃ unitName token ending, r ∈ s.refused unitName token ending

/-- What the live guards hold is in the directory, and all the rest is as it was in `w₀`. -/
structure Kept (s : Stager) (w₀ : World) (d : Location) (σ : Scene) : Prop where
  here : σ.world.files.here = w₀.files.here
  supply : σ.world.freshName = w₀.freshName
  drawn : w₀.drawn ≤ σ.world.drawn
  tokens : ∀ g ∈ σ.guards ++ σ.past, ∃ i, w₀.drawn ≤ i ∧ i < σ.world.drawn ∧
    g.token = w₀.freshName i
  distinct : ((σ.guards ++ σ.past).map Guard.token).Nodup
  taken : ∀ g ∈ σ.guards ++ σ.past, s.refusalOf? g.unitName g.token s.sourceExtension = none
  reserved : ∀ g ∈ σ.guards, g.output.isSome = true →
    g.withOutput = true ∧ s.refusalOf? g.unitName g.token s.unitExtension = none
  held : ∀ g ∈ σ.guards, ∀ ending ∈ s.endings,
    σ.world.files.get? (g.name ending :: d) = (g.content? s ending).map .file
  rest : ∀ l, (∀ g ∈ σ.guards, ∀ ending ∈ s.endings, l ≠ g.name ending :: d) →
    σ.world.files.get? l = w₀.files.get? l
  reported : Reported s w₀ σ.world

variable {s : Stager} {w w' w₀ : World} {d : Location} {n : Nat} {σ σ' : Scene} {g g' : Guard}
  {t : FileTree} {a b : Text}

theorem Reported.append {rs : List (Text × IoError)} (h : Reported s w₀ w)
    (hw : w'.reports = w.reports ++ rs)
    (hrs : ∀ r ∈ rs, ∃ unitName token ending, r ∈ s.refused unitName token ending) :
    Reported s w₀ w' := by
  obtain ⟨earlier, hearlier, hrefused⟩ := h
  refine ⟨earlier ++ rs, by rw [hw, hearlier, List.append_assoc], fun r hr => ?_⟩
  exact (List.mem_append.mp hr).elim (hrefused r) (hrs r)

theorem Guard.output_eq_some_iff {path : Text} : (g.files s).output = some path ↔
    g.withOutput = true ∧ path = s.pathOf g.unitName g.token s.unitExtension := by
  have houtput : (g.files s).output =
      if g.withOutput then some (s.pathOf g.unitName g.token s.unitExtension) else none := rfl
  rw [houtput]
  cases g.withOutput <;> simp [eq_comm]

theorem Guard.mem_middle {before after : List Guard} :
    g' ∈ before ++ g :: after ↔ g' = g ∨ g' ∈ before ++ after :=
  List.perm_middle.mem_iff.trans List.mem_cons

theorem Guard.exists_of_written (before after past : List Guard) (g : Guard) (kept : Bytes) :
    ∀ g' ∈ (before ++ { g with output := some kept } :: after) ++ past,
      ∃ g₀ ∈ (before ++ g :: after) ++ past,
        g'.unitName = g₀.unitName ∧ g'.token = g₀.token := by
  intro g' hg'
  have hg : g ∈ (before ++ g :: after) ++ past := by simp
  rcases List.mem_append.mp hg' with hg' | hg'
  · rcases Guard.mem_middle.mp hg' with rfl | hg'
    · exact ⟨g, hg, rfl, rfl⟩
    · exact ⟨g', List.mem_append_left _ (Guard.mem_middle.mpr (.inr hg')), rfl, rfl⟩
  · exact ⟨g', List.mem_append_right _ hg', rfl, rfl⟩

/-- A new guard holds its source. -/
theorem Guard.held_staged {ending : Text} (hnew : g.output = none)
    (hfree : t.get? (g.name ending :: d) = none) :
    (if g.name ending :: d = g.name s.sourceExtension :: d then some (.file (Text.encode g.source))
      else t.get? (g.name ending :: d)) = (g.content? s ending).map .file := by
  by_cases hsource : ending = s.sourceExtension
  · simp [hsource, Guard.content?, hnew]
  · rw [if_neg, hfree]
    · simp [Guard.content?, hsource, hnew]
    · exact fun heq => hsource (Scratch.fileName_inj.mp (List.cons.inj heq).1)

/-- An output goes over what the guard held under the name, and nothing else of it changes. -/
theorem Guard.held_written {kept : Bytes} {ending : Text}
    (h : t.get? (g.name ending :: d) = (g.content? s ending).map .file) :
    (if g.name ending :: d = g.name s.unitExtension :: d then some (.file kept)
      else t.get? (g.name ending :: d)) =
      (Guard.content? s { g with output := some kept } ending).map .file := by
  by_cases hunit : ending = s.unitExtension
  · simp [hunit, Guard.content?]
  · rw [if_neg, h]
    · simp [Guard.content?, hunit]
    · exact fun heq => hunit (Scratch.fileName_inj.mp (List.cons.inj heq).1)

namespace Kept

theorem start (s : Stager) (w₀ : World) (d : Location) : Kept s w₀ d ⟨w₀, [], []⟩ where
  here := rfl
  supply := rfl
  drawn := Nat.le_refl _
  tokens := by simp
  distinct := List.nodup_nil
  taken := by simp
  reserved := by simp
  held := by simp
  rest := fun _ _ => rfl
  reported := ⟨[], by simp⟩

/-- What a guard holds are files that can be removed. -/
theorem tidy (h : Kept s w₀ d σ) (hg : g ∈ σ.guards) : s.Tidy d g.unitName g.token σ.world.files := by
  intro ending hending e he
  have hget : (g.content? s ending).map .file = some e :=
    (h.held g hg ending hending).symm.trans he
  obtain ⟨content, hcontent, rfl⟩ := Option.map_eq_some_iff.mp hget
  refine ⟨⟨content, rfl⟩, ?_⟩
  rw [Guard.content?] at hcontent
  split at hcontent
  · next hunit => exact hunit.1 ▸ (h.reserved g hg hunit.2).2
  · split at hcontent
    · next hsource => exact hsource ▸ h.taken g (List.mem_append_left _ hg)
    · simp at hcontent

section

variable (hready : s.Ready w₀ d n) (hsimple : s.Simple) (h : Kept s w₀ d σ)
  (hn : σ.world.drawn ≤ n)
include hready h hn

theorem isToken (hg : g ∈ σ.guards ++ σ.past) : IsToken g.token := by
  obtain ⟨i, hi, hlt, htoken⟩ := h.tokens g hg
  exact htoken ▸ hready.token i hi (Nat.lt_of_lt_of_le hlt hn)

theorem not_there (hg : g ∈ σ.guards ++ σ.past) (ending : Text) :
    w₀.files.get? (g.name ending :: d) = none := by
  obtain ⟨i, hi, hlt, htoken⟩ := h.tokens g hg
  rw [Guard.name, htoken]
  exact hready.not_there ⟨hi, Nat.lt_of_lt_of_le hlt hn⟩ _ _

theorem grown : w₀.files.Extends σ.world.files := by
  refine ⟨h.here, fun l e he => ?_⟩
  rw [h.rest l, he]
  rintro g hg ending - rfl
  simp [h.not_there hready hn (List.mem_append_left _ hg)] at he

include hsimple

theorem vacant (hg : g ∈ σ.guards ++ σ.past) : s.Vacant w₀.files d g.unitName g.token := by
  obtain ⟨i, hi, hlt, htoken⟩ := h.tokens g hg
  exact htoken ▸ hready.vacant hsimple ⟨hi, Nat.lt_of_lt_of_le hlt hn⟩ g.unitName

theorem name_ne (hg : g ∈ σ.guards ++ σ.past) (hg' : IsToken g'.token) (hne : g.token ≠ g'.token)
    (ha : a ∈ s.endings) (hb : b ∈ s.endings) : g.name a ≠ g'.name b := fun heq =>
  hne (Scratch.token_of_fileName (h.isToken hready hn hg) hg' (hsimple a ha).1 (hsimple b hb).1 heq)

/-- A change of entries of another token leaves what a guard holds. -/
theorem held_after (hg : g ∈ σ.guards) (hg' : IsToken g'.token) (hne : g.token ≠ g'.token)
    (ht : ∀ l, (∀ ending ∈ s.endings, l ≠ g'.name ending :: d) →
      t.get? l = σ.world.files.get? l) (ha : a ∈ s.endings) :
    t.get? (g.name a :: d) = (g.content? s a).map .file := by
  rw [ht, h.held g hg a ha]
  intro b hb heq
  exact h.name_ne hready hsimple hn (List.mem_append_left _ hg) hg' hne ha hb (List.cons.inj heq).1

theorem read (hg : g ∈ σ.guards) (ha : a ∈ s.endings) {content : Bytes}
    (hcontent : g.content? s a = some content) :
    σ.world.files.get? (g.name a :: d) = some (.file content) ∧
      σ.world.files.read (s.pathOf g.unitName g.token a) = .ok content := by
  have hget : σ.world.files.get? (g.name a :: d) = some (.file content) := by
    rw [h.held g hg a ha, hcontent]
    rfl
  have hvacant := h.vacant hready hsimple hn (List.mem_append_left _ hg)
  have hnames := hvacant.names_of_extends (h.grown hready hn) ha
  have hread := hnames.read_eq fun e he => (h.tidy hg a ha e he).1
  have hrefused : refusal? (s.pathOf g.unitName g.token a) (g.name a) = none :=
    (h.tidy hg a ha _ hget).2
  rw [show fileName (stem g.unitName g.token) a = g.name a from rfl, hrefused, hget] at hread
  exact ⟨hget, hread⟩

/-- Dropping a guard takes away its files and nothing else, and reports an output path only if the
system does not take it. -/
theorem discard (hg : g ∈ σ.guards) :
    let w := s.discard (g.files s) σ.world
    (∀ ending ∈ s.endings, w.files.get? (g.name ending :: d) = none) ∧
    (∀ l, (∀ ending ∈ s.endings, l ≠ g.name ending :: d) →
      w.files.get? l = σ.world.files.get? l) ∧
    w.files.here = σ.world.files.here ∧
    w.reports = σ.world.reports ++ if s.reports && g.withOutput then
      s.refused g.unitName g.token s.unitExtension else [] := by
  intro w
  have hmem := List.mem_append_left σ.past hg
  have hsource : s.refused g.unitName g.token s.sourceExtension = [] := by
    rw [Stager.refused, h.taken g hmem]
    rfl
  obtain ⟨hget, hhere, hreports⟩ := Stager.discard_paths (h.vacant hready hsimple hn hmem)
    (h.grown hready hn) (h.tidy hg) g.withOutput
  refine ⟨fun ending hending => (hget _).trans ?_, fun l hl => (hget l).trans ?_, hhere,
    hreports.trans ?_⟩
  · split
    · rfl
    · next hkeep =>
      -- the name of an output is left alone where none was reserved, and nothing stands there
      have hne : ending ≠ s.sourceExtension := fun heq => hkeep (.inl (by rw [heq]; rfl))
      have hunit : ending = s.unitExtension := by simpa [Stager.endings, hne] using hending
      have houtput : g.output.isSome = false := by
        rw [← Bool.not_eq_true]
        exact fun hsome => hkeep (.inr ⟨(h.reserved g hg hsome).1, by rw [hunit]; rfl⟩)
      rw [h.held g hg ending hending]
      simp [Guard.content?, hne, houtput]
  · rw [if_neg]
    rintro (rfl | ⟨-, rfl⟩)
    · exact hl _ (by simp [Stager.endings]) rfl
    · exact hl _ (by simp [Stager.endings]) rfl
  · rw [hsource]
    cases s.reports <;> cases g.withOutput <;> rfl

/-- Writing at the path that is reserved for a guard puts a file under its name. -/
theorem write_output (hg : g ∈ σ.guards) {content kept : Bytes}
    (hread : (σ.world.files.write (s.pathOf g.unitName g.token s.unitExtension) content).2.read
      (s.pathOf g.unitName g.token s.unitExtension) = .ok kept) :
    s.refusalOf? g.unitName g.token s.unitExtension = none ∧
      (σ.world.files.write (s.pathOf g.unitName g.token s.unitExtension) content).2 =
        σ.world.files.set (g.name s.unitExtension :: d) (.file kept) := by
  have hunit : s.unitExtension ∈ s.endings := by simp [Stager.endings]
  have hvacant := h.vacant hready hsimple hn (List.mem_append_left _ hg)
  have hgrown := h.grown hready hn
  exact (hvacant.names_of_extends hgrown hunit).write_of_read
    (fun e he => (h.tidy hg _ hunit e he).1)
    (fun c => hvacant.names_of_extends
      (hgrown.set (List.cons_ne_nil _ _) (hvacant.free _ hunit)) hunit) hread

omit hready hsimple h hn

theorem apart {before after past : List Guard} {w : World}
    (h : Kept s w₀ d ⟨w, before ++ g :: after, past⟩) :
    (((before ++ after) ++ g :: past).map Guard.token).Nodup ∧
      ∀ g' ∈ before ++ after, g'.token ≠ g.token := by
  have hfirst : ((g :: (before ++ after ++ past)).map Guard.token).Nodup := by
    refine (List.Perm.nodup_iff (List.Perm.map _ ?_)).mp h.distinct
    rw [List.append_assoc, List.append_assoc]
    exact List.perm_middle
  refine ⟨(List.Perm.nodup_iff (List.Perm.map _ List.perm_middle)).mpr hfirst, fun g' hg' heq => ?_⟩
  rw [List.map_cons, List.nodup_cons] at hfirst
  exact hfirst.1 (heq ▸ List.mem_map_of_mem (List.mem_append_left _ hg'))

/-- What no guard holds is as it was in the beginning. -/
theorem rest_of_apart {before after past : List Guard} {w : World} {l : Location}
    (h : Kept s w₀ d ⟨w, before ++ g :: after, past⟩)
    (hown : ∀ ending ∈ s.endings, l ≠ g.name ending :: d)
    (hl : ∀ g' ∈ before ++ after, ∀ ending ∈ s.endings, l ≠ g'.name ending :: d) :
    w.files.get? l = w₀.files.get? l := by
  refine h.rest l fun g' hg' ending hending => ?_
  rcases Guard.mem_middle.mp hg' with rfl | hg'
  · exact hown ending hending
  · exact hl g' hg' ending hending

include hready hsimple

theorem dropped {before after past : List Guard} {w : World}
    (h : Kept s w₀ d ⟨w, before ++ g :: after, past⟩) (hn : w.drawn ≤ n) :
    Kept s w₀ d ⟨s.discard (g.files s) w, before ++ after, g :: past⟩ := by
  have hg : g ∈ before ++ g :: after := by simp
  have hlive {g'} (hg' : g' ∈ before ++ after) : g' ∈ before ++ g :: after :=
    Guard.mem_middle.mpr (.inr hg')
  have hall {g'} (hg' : g' ∈ (before ++ after) ++ g :: past) :
      g' ∈ (before ++ g :: after) ++ past := by
    simp only [List.mem_append, List.mem_cons] at hg' ⊢
    tauto
  obtain ⟨hdistinct, hapart⟩ := h.apart
  obtain ⟨hgone, hother, hhere, hreports⟩ := h.discard hready hsimple hn hg
  obtain ⟨t, rs, hrest⟩ := (s.discard_swept (g.files s) w).rest
  rw [hrest] at hgone hother hhere hreports ⊢
  exact {
    here := hhere.trans h.here
    supply := h.supply
    drawn := h.drawn
    tokens := fun g' hg' => h.tokens g' (hall hg')
    distinct := hdistinct
    taken := fun g' hg' => h.taken g' (hall hg')
    reserved := fun g' hg' => h.reserved g' (hlive hg')
    held := fun g' hg' ending hending => h.held_after hready hsimple hn (hlive hg')
      (h.isToken hready hn (List.mem_append_left _ hg)) (hapart g' hg') hother hending
    rest := fun l hl => by
      by_cases hown : ∃ ending ∈ s.endings, l = g.name ending :: d
      · obtain ⟨ending, hending, rfl⟩ := hown
        rw [hgone ending hending, h.not_there hready hn (List.mem_append_left _ hg)]
      · have hown : ∀ ending ∈ s.endings, l ≠ g.name ending :: d := by simpa using hown
        exact (hother l hown).trans (h.rest_of_apart hown hl)
    reported := h.reported.append hreports fun r hr => by
      split at hr
      · exact ⟨_, _, _, hr⟩
      · simp at hr }

theorem written {before after past : List Guard} {w : World} {path : Text} {content kept : Bytes}
    (h : Kept s w₀ d ⟨w, before ++ g :: after, past⟩) (hn : w.drawn ≤ n)
    (hpath : (g.files s).output = some path) (hwrite : (w.files.write path content).2 = t)
    (hread : t.read path = .ok kept) :
    Kept s w₀ d ⟨{ w with files := t }, before ++ { g with output := some kept } :: after, past⟩ := by
  have hg : g ∈ before ++ g :: after := by simp
  obtain ⟨hreserve, rfl⟩ := Guard.output_eq_some_iff.mp hpath
  subst hwrite
  obtain ⟨hrefused, hset⟩ := h.write_output hready hsimple hn hg hread
  rw [hset]
  have hget := FileTree.get?_set w.files (g.name s.unitExtension :: d) (.file kept)
    (List.cons_ne_nil _ _)
  have hlive {g'} (hg' : g' ∈ before ++ after) : g' ∈ before ++ g :: after :=
    Guard.mem_middle.mpr (.inr hg')
  have hsame := Guard.exists_of_written before after past g kept
  have hother : ∀ l, (∀ ending ∈ s.endings, l ≠ g.name ending :: d) →
      (w.files.set (g.name s.unitExtension :: d) (.file kept)).get? l = w.files.get? l :=
    fun l hl => (hget l).trans (if_neg (hl _ (by simp [Stager.endings])))
  exact {
    here := h.here
    supply := h.supply
    drawn := h.drawn
    tokens := fun g' hg' => by
      obtain ⟨g₀, hg₀, -, htoken⟩ := hsame g' hg'
      exact htoken ▸ h.tokens g₀ hg₀
    distinct := by simpa using h.distinct
    taken := fun g' hg' => by
      obtain ⟨g₀, hg₀, hname, htoken⟩ := hsame g' hg'
      exact hname ▸ htoken ▸ h.taken g₀ hg₀
    reserved := fun g' hg' hsome => by
      rcases Guard.mem_middle.mp hg' with rfl | hg'
      · exact ⟨hreserve, hrefused⟩
      · exact h.reserved g' (hlive hg') hsome
    held := fun g' hg' ending hending => by
      rcases Guard.mem_middle.mp hg' with rfl | hg'
      · exact (hget _).trans (Guard.held_written (g := g) (h.held g hg ending hending))
      · exact h.held_after hready hsimple hn (hlive hg')
          (h.isToken hready hn (List.mem_append_left _ hg)) (h.apart.2 g' hg') hother hending
    rest := fun l hl => by
      have hown : ∀ ending ∈ s.endings, l ≠ g.name ending :: d :=
        hl { g with output := some kept } (by simp)
      exact (hother l hown).trans (h.rest_of_apart hown fun g' hg' =>
        hl g' (Guard.mem_middle.mpr (.inr hg')))
    reported := h.reported }

/-- The next token is that of no guard, and nothing stands under its names. -/
theorem next (h : Kept s w₀ d σ) (hn : σ.world.drawn < n)
    (hg : g.token = w₀.freshName σ.world.drawn) :
    IsToken g.token ∧ (∀ g' ∈ σ.guards ++ σ.past, g'.token ≠ g.token) ∧
      s.Vacant σ.world.files d g.unitName g.token := by
  have htoken : IsToken g.token := hg ▸ hready.token _ h.drawn hn
  have hother : ∀ g' ∈ σ.guards ++ σ.past, g'.token ≠ g.token := by
    intro g' hg' heq
    obtain ⟨i, hi, hlt, hi'⟩ := h.tokens g' hg'
    exact hready.distinct i _ hi hlt hn (hi' ▸ hg ▸ heq)
  have hvacant := hg ▸ hready.vacant hsimple ⟨h.drawn, hn⟩ g.unitName
  refine ⟨htoken, hother, fun ending hending =>
    hvacant.names_of_extends (h.grown hready (Nat.le_of_lt hn)) hending, fun ending hending => ?_⟩
  rw [h.rest]
  · exact hvacant.free ending hending
  · intro g' hg' ending' hending' heq
    exact h.name_ne hready hsimple (Nat.le_of_lt hn) (List.mem_append_left _ hg') htoken
      (hother g' (List.mem_append_left _ hg')) hending' hending (List.cons.inj heq).1.symm

theorem staged {unitName source : Text} {withOutput : Bool} {f : Staged} (h : Kept s w₀ d σ)
    (hn : σ.world.drawn < n) (hstage : s.stage unitName source withOutput σ.world = (.ok f, w)) :
    Kept s w₀ d ⟨w, ⟨unitName, σ.world.freshName σ.world.drawn, source, withOutput, none⟩ :: σ.guards,
      σ.past⟩ := by
  rw [h.supply]
  let g : Guard := ⟨unitName, w₀.freshName σ.world.drawn, source, withOutput, none⟩
  obtain ⟨htoken, hapart, hvacant⟩ := h.next (g := g) hready hsimple hn rfl
  rcases hvacant.stage_cases (by rw [h.supply]) source withOutput with
    ⟨htaken, t, hstage', hhere, hget⟩ | ⟨e, t, rs, hstage', -⟩
  · obtain rfl : _ = w := (Prod.mk.inj (hstage'.symm.trans hstage)).2
    have hother : ∀ l, (∀ ending ∈ s.endings, l ≠ g.name ending :: d) →
        t.get? l = σ.world.files.get? l :=
      fun l hl => (hget l).trans (if_neg (hl _ List.mem_cons_self))
    exact {
      here := hhere.trans h.here
      supply := h.supply
      drawn := Nat.le_succ_of_le h.drawn
      tokens := fun g' hg' => by
        rcases List.mem_cons.mp hg' with rfl | hg'
        · exact ⟨_, h.drawn, Nat.lt_succ_self _, rfl⟩
        · obtain ⟨i, hi, hlt, hi'⟩ := h.tokens g' hg'
          exact ⟨i, hi, Nat.lt_succ_of_lt hlt, hi'⟩
      distinct := by
        rw [List.cons_append, List.map_cons, List.nodup_cons]
        refine ⟨fun hmem => ?_, h.distinct⟩
        obtain ⟨g', hg', heq⟩ := List.mem_map.mp hmem
        exact hapart g' hg' heq
      taken := fun g' hg' => by
        rcases List.mem_cons.mp hg' with rfl | hg'
        · exact htaken
        · exact h.taken g' hg'
      reserved := fun g' hg' hsome => by
        rcases List.mem_cons.mp hg' with rfl | hg'
        · simp at hsome
        · exact h.reserved g' hg' hsome
      held := fun g' hg' ending hending => by
        rcases List.mem_cons.mp hg' with rfl | hg'
        · exact (hget _).trans (Guard.held_staged rfl (hvacant.free ending hending))
        · exact h.held_after hready hsimple (Nat.le_of_lt hn) hg' htoken
            (hapart g' (List.mem_append_left _ hg')) hother hending
      rest := fun l hl => by
        rw [hother l (hl g List.mem_cons_self)]
        exact h.rest l fun g' hg' => hl g' (List.mem_cons_of_mem _ hg')
      reported := h.reported }
  · cases hstage'.symm.trans hstage

theorem stage_failed {unitName source : Text} {withOutput : Bool} {halt : Halt}
    (h : Kept s w₀ d σ) (hn : σ.world.drawn < n)
    (hstage : s.stage unitName source withOutput σ.world = (.error halt, w)) : ∃ t rs,
    w = { σ.world with
      files := t, drawn := σ.world.drawn + 1, reports := σ.world.reports ++ rs } ∧
    t.here = σ.world.files.here ∧ (∀ l, t.get? l = σ.world.files.get? l) ∧
    ∀ r ∈ rs, ∃ unitName token ending, r ∈ s.refused unitName token ending := by
  obtain ⟨-, -, hvacant⟩ := h.next
    (g := ⟨unitName, w₀.freshName σ.world.drawn, source, withOutput, none⟩) hready hsimple hn rfl
  rcases hvacant.stage_cases (by rw [h.supply]) source withOutput with
    ⟨-, t, hstage', -⟩ | ⟨e, t, rs, hstage', hhere, hget, hrs⟩
  · cases hstage'.symm.trans hstage
  · refine ⟨t, rs, ((Prod.mk.inj (hstage'.symm.trans hstage)).2).symm, hhere, hget, fun r hr => ?_⟩
    obtain ⟨ending, -, hr⟩ := hrs r hr
    exact ⟨_, _, _, hr⟩

theorem unstaged {unitName source : Text} {withOutput : Bool} {halt : Halt} (h : Kept s w₀ d σ)
    (hn : σ.world.drawn < n)
    (hstage : s.stage unitName source withOutput σ.world = (.error halt, w)) :
    Kept s w₀ d { σ with world := w } := by
  obtain ⟨t, rs, rfl, hhere, hget, hrs⟩ := h.stage_failed hready hsimple hn hstage
  exact {
    here := hhere.trans h.here
    supply := h.supply
    drawn := Nat.le_succ_of_le h.drawn
    tokens := fun g hg => by
      obtain ⟨i, hi, hlt, htoken⟩ := h.tokens g hg
      exact ⟨i, hi, Nat.lt_succ_of_lt hlt, htoken⟩
    distinct := h.distinct
    taken := h.taken
    reserved := h.reserved
    held := fun g hg ending hending => (hget _).trans (h.held g hg ending hending)
    rest := fun l hl => (hget l).trans (h.rest l hl)
    reported := h.reported.append rfl hrs }

end

end Kept

/-! ### Runs -/

theorem Turn.drawn_le (h : Turn s σ σ') : σ.world.drawn ≤ σ'.world.drawn := by
  cases h with
  | staged hstage => exact Stager.drawn_of_stage hstage ▸ Nat.le_succ _
  | unstaged hstage => exact Stager.drawn_of_stage hstage ▸ Nat.le_succ _
  | written => exact Nat.le_refl _
  | dropped => exact Nat.le_of_eq (s.discard_drawn _ _).symm
  | unwound hdrop =>
    cases hdrop
    exact Nat.le_of_eq (s.discard_drawn _ _).symm
  | passed => exact Nat.le_refl _

theorem Turn.kept (hready : s.Ready w₀ d n) (hsimple : s.Simple) (hturn : Turn s σ σ')
    (h : Kept s w₀ d σ) (hn : σ'.world.drawn ≤ n) : Kept s w₀ d σ' := by
  have hn' := Nat.le_trans hturn.drawn_le hn
  cases hturn with
  | staged hstage =>
    have hdrawn := Stager.drawn_of_stage hstage
    exact h.staged hready hsimple (Nat.lt_of_lt_of_le (hdrawn ▸ Nat.lt_succ_self _) hn) hstage
  | unstaged hstage =>
    have hdrawn := Stager.drawn_of_stage hstage
    exact h.unstaged hready hsimple (Nat.lt_of_lt_of_le (hdrawn ▸ Nat.lt_succ_self _) hn) hstage
  | written hpath hwrite hread => exact h.written hready hsimple hn' hpath hwrite hread
  | dropped => exact h.dropped hready hsimple hn'
  | unwound hdrop =>
    cases hdrop
    exact h.dropped hready hsimple hn'
  | passed => exact ⟨h.here, h.supply, h.drawn, h.tokens, h.distinct, h.taken, h.reserved, h.held,
      h.rest, h.reported⟩

theorem kept_of_run (hready : s.Ready w₀ d n) (hsimple : s.Simple)
    (hrun : ReflTransGen (Turn s) ⟨w₀, [], []⟩ σ) (hn : σ.world.drawn ≤ n) : Kept s w₀ d σ := by
  induction hrun with
  | refl => exact .start s w₀ d
  | tail _ hturn ih => exact hturn.kept hready hsimple (ih (Nat.le_trans hturn.drawn_le hn)) hn

/-- What is true of the scratch directory at a moment `σ` of a run that began in `w₀`, when the
directory `d` had its first content. -/
structure Accounts (s : Stager) (w₀ : World) (d : Location) (n : Nat) (σ : Scene) : Prop where
  /-- The source of each live guard is there, byte for byte, and its path leads to it. Where sources
  and units have one ending, an output goes over it. -/
  source : ∀ g ∈ σ.guards, (g.output.isSome = true → s.unitExtension ≠ s.sourceExtension) →
    σ.world.files.get? (g.name s.sourceExtension :: d) = some (.file (Text.encode g.source)) ∧
    σ.world.files.read (g.files s).source = .ok (Text.encode g.source)
  /-- So is the output that was written for it. -/
  output : ∀ g ∈ σ.guards, ∀ content, g.output = some content →
    σ.world.files.get? (g.name s.unitExtension :: d) = some (.file content) ∧
    ∃ path, (g.files s).output = some path ∧ σ.world.files.read path = .ok content
  /-- Nothing else is there that was not there in the beginning, and nothing else has gone. -/
  rest : ∀ l, (∀ g ∈ σ.guards, l ≠ g.name s.sourceExtension :: d ∧
    (g.output.isSome = true → l ≠ g.name s.unitExtension :: d)) →
      σ.world.files.get? l = w₀.files.get? l
  /-- The names of the live guards are new. -/
  new : ∀ g ∈ σ.guards, ∀ ending ∈ s.endings, w₀.files.get? (g.name ending :: d) = none
  /-- Two guards have no name in common. -/
  apart : σ.guards.Pairwise fun g g' => ∀ a ∈ s.endings, ∀ b ∈ s.endings, g.name a ≠ g'.name b
  idle : σ.guards = [] → ∀ l, σ.world.files.get? l = w₀.files.get? l
  /-- A stage that fails leaves the directory as it is. -/
  failing : σ.world.drawn < n → ∀ unitName source withOutput halt w,
    s.stage unitName source withOutput σ.world = (.error halt, w) →
      ∀ l, w.files.get? l = σ.world.files.get? l
  /-- Dropping a guard takes away its own files and nothing else. The hook is called for it once if it
  has an output path that the system does not take, and not at all otherwise. -/
  dropping : ∀ g ∈ σ.guards, let w := s.discard (g.files s) σ.world
    (∀ ending ∈ s.endings, w.files.get? (g.name ending :: d) = none) ∧
    (∀ l, (∀ ending ∈ s.endings, l ≠ g.name ending :: d) →
      w.files.get? l = σ.world.files.get? l) ∧
    w.reports = σ.world.reports ++ if s.reports && g.withOutput then
      s.refused g.unitName g.token s.unitExtension else []
  /-- Up to now the hook has not been called for the source of any guard, live or dropped, nor for its
  output unless the system does not take that path. -/
  hook : ∃ rs, σ.world.reports = w₀.reports ++ rs ∧ ∀ g ∈ σ.guards ++ σ.past, ∀ r ∈ rs,
    r.1 ≠ (g.files s).source ∧ ((g.files s).output = some r.1 →
      s.refusalOf? g.unitName g.token s.unitExtension = some r.2)

/-- In a run over a scratch directory, whatever the stages and drops in it and in whatever order, the
directory is at every moment what it was in the beginning and what the live guards hold. -/
theorem run_accounts (s : Stager) (hsimple : s.Simple) (hready : s.Ready w₀ d n)
    (hrun : ReflTransGen (Turn s) ⟨w₀, [], []⟩ σ) (hn : σ.world.drawn ≤ n) :
    Accounts s w₀ d n σ := by
  have h := kept_of_run hready hsimple hrun hn
  have hsource : s.sourceExtension ∈ s.endings := by simp [Stager.endings]
  have hunit : s.unitExtension ∈ s.endings := by simp [Stager.endings]
  exact {
    source := fun g hg hover => by
      refine h.read hready hsimple hn hg hsource ?_
      rw [Guard.content?, if_neg, if_pos rfl]
      exact fun hboth => hover hboth.2 hboth.1.symm
    output := fun g hg content hcontent => by
      have hsome : g.output.isSome = true := by simp [hcontent]
      obtain ⟨hget, hread⟩ := h.read hready hsimple hn hg hunit
        (show g.content? s s.unitExtension = some content by simp [Guard.content?, hcontent])
      exact ⟨hget, _, Guard.output_eq_some_iff.mpr ⟨(h.reserved g hg hsome).1, rfl⟩, hread⟩
    rest := fun l hl => by
      by_cases hown : ∃ g ∈ σ.guards, ∃ ending ∈ s.endings, l = g.name ending :: d
      · obtain ⟨g, hg, ending, hending, rfl⟩ := hown
        obtain ⟨hsource, hunit⟩ := hl g hg
        -- the name is that of an output which nobody has written
        have hne : ending ≠ s.sourceExtension := fun heq => hsource (by rw [heq])
        have hout : ¬(ending = s.unitExtension ∧ g.output.isSome = true) :=
          fun hboth => hunit hboth.2 (by rw [hboth.1])
        rw [h.held g hg ending hending, h.not_there hready hn (List.mem_append_left _ hg),
          Guard.content?, if_neg hout, if_neg hne]
        rfl
      · exact h.rest l fun g hg ending hending heq => hown ⟨g, hg, ending, hending, heq⟩
    new := fun g hg ending _ => h.not_there hready hn (List.mem_append_left _ hg) ending
    apart := by
      have hdistinct := h.distinct
      rw [List.map_append] at hdistinct
      refine (List.pairwise_map.mp (List.nodup_append.mp hdistinct).1).imp_of_mem ?_
      intro g g' hg hg' hne a ha b hb
      exact h.name_ne hready hsimple hn (List.mem_append_left _ hg)
        (h.isToken hready hn (List.mem_append_left _ hg')) hne ha hb
    idle := fun hnone l => h.rest l (by simp [hnone])
    failing := fun hlt unitName source withOutput halt w hstage => by
      obtain ⟨t, rs, rfl, -, hget, -⟩ := h.stage_failed hready hsimple hlt hstage
      exact hget
    dropping := fun g hg => by
      obtain ⟨hgone, hother, -, hreports⟩ := h.discard hready hsimple hn hg
      exact ⟨hgone, hother, hreports⟩
    hook := by
      obtain ⟨rs, hreports, hrefused⟩ := h.reported
      refine ⟨rs, hreports, fun g hg r hr => ?_⟩
      obtain ⟨unitName, token, ending, hr⟩ := hrefused r hr
      refine ⟨fun hpath => ?_, fun hpath => ?_⟩
      · have hrefusal := Stager.refusalOf?_of_refused hr hpath
        simp [h.taken g hg] at hrefusal
      · exact Stager.refusalOf?_of_refused hr (Guard.output_eq_some_iff.mp hpath).2 }

/-! ### Two guards of one name, and an ending that is too long -/

def twins : Stager := ⟨"/t".toList, "fsx".toList, "dll".toList, true⟩

/-- A world with a file in its one directory, and two names to draw. -/
def twinsWorld : World where
  files := { entries := [(["t".toList], .directory), (["old".toList, "t".toList], .file [1, 2])] }
  freshName := fun
    | 0 => "0123456789abcdef0123456789abcdef".toList
    | _ => "fedcba9876543210fedcba9876543210".toList

theorem ready_twinsWorld (hdirectory : s.directory = "/t".toList) :
    s.Ready twinsWorld ["t".toList] 2 := by
  have hlt {i : Nat} (hi : i < 2) : i = 0 ∨ i = 1 := by omega
  have htoken (i : Nat) (hi : i < 2) : IsToken (twinsWorld.freshName i) := by
    rcases hlt hi with rfl | rfl
    · exact ⟨by decide, by decide⟩
    · exact ⟨by decide, by decide⟩
  refine ⟨⟨40, ?_⟩, fun i _ => htoken i, fun i j _ hij hj => ?_, fun i _ hi name hname => ?_⟩
  · rw [hdirectory]
    exact .down (by decide) (by decide) .here
  · obtain ⟨rfl, rfl⟩ : i = 0 ∧ j = 1 := by omega
    decide
  · have hlong : 32 ≤ name.length := (htoken i hi).length ▸ hname.length_le
    have hold : (name == ['o', 'l', 'd']) = false := by
      rw [beq_eq_false_iff_ne]
      rintro rfl
      exact absurd hlong (by decide)
    simp [FileTree.get?, twinsWorld, List.lookup_cons, hold]

theorem run_accounts_twins :
    let first : Guard := ⟨"same".toList, twinsWorld.freshName 0, "a".toList, true, none⟩
    let second : Guard := ⟨"same".toList, twinsWorld.freshName 1, "b".toList, false, none⟩
    ∃ w, ReflTransGen (Turn twins) ⟨twinsWorld, [], []⟩ ⟨w, [second], [first]⟩ ∧
      Accounts twins twinsWorld ["t".toList] 2 ⟨w, [second], [first]⟩ ∧
      w.files.get? ["same-fedcba9876543210fedcba9876543210.fsx".toList, "t".toList] =
        some (.file (Text.encode "b".toList)) := by
  intro first second
  have hstage (unitName source : Text) (withOutput : Bool) (w : World) (f : Staged)
      (h : (twins.stage unitName source withOutput w).1.toOption = some f) :
      twins.stage unitName source withOutput w =
        (.ok f, (twins.stage unitName source withOutput w).2) := by
    rcases hr : twins.stage unitName source withOutput w with ⟨_ | f', w'⟩
    · simp [hr, Except.toOption] at h
    · obtain rfl : f' = f := by simpa [hr, Except.toOption] using h
      rfl
  let w₁ := (twins.stage "same".toList "a".toList true twinsWorld).2
  let w₂ := (twins.stage "same".toList "b".toList false w₁).2
  have hfirst : Turn twins ⟨twinsWorld, [], []⟩ ⟨w₁, [first], []⟩ :=
    .staged (hstage _ _ _ _ (first.files twins) (by decide +kernel))
  have hsecond : Turn twins ⟨w₁, [first], []⟩ ⟨w₂, [second, first], []⟩ :=
    .staged (hstage _ _ _ _ (second.files twins) (by decide +kernel))
  have hdrop : Turn twins ⟨w₂, [second, first], []⟩
      ⟨twins.discard (first.files twins) w₂, [second], [first]⟩ :=
    @Turn.dropped twins w₂ [second] [] [] first
  have hrun := ((ReflTransGen.refl.tail hfirst).tail hsecond).tail hdrop
  have haccounts := run_accounts twins (by decide) (ready_twinsWorld rfl) hrun (by decide +kernel)
  exact ⟨_, hrun, haccounts, (haccounts.source second List.mem_cons_self (by simp [second])).1⟩

/-- The reserved path of a successful stage goes to the hook if the system does not take it. -/
theorem hook_called_for_long_ending :
    let s : Stager := { twins with unitExtension := List.replicate 250 'x' }
    s.Simple ∧ s.Ready twinsWorld ["t".toList] 2 ∧
      (match s.stage "t1".toList "s".toList true twinsWorld with
        | (.ok f, w) => some (w.reports, (s.discard f w).reports)
        | (.error _, _) => none) =
          some ([], [("/t/t1-0123456789abcdef0123456789abcdef.".toList ++ List.replicate 250 'x',
            .nameTooLong)]) := by
  intro s
  refine ⟨fun ending hending => ?_, ready_twinsWorld rfl, by decide +kernel⟩
  rcases List.mem_cons.mp hending with rfl | hending
  · decide
  · obtain rfl : ending = List.replicate 250 'x' := List.mem_singleton.mp hending
    exact ⟨fun h => absurd (List.eq_of_mem_replicate h) (by decide),
      fun h => absurd (List.eq_of_mem_replicate h) (by decide)⟩

end Scriptorium
