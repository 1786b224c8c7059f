import Courier.Proofs.Fleet.Pace
import Courier.Run.Script
import Mathlib.Algebra.Group.Action.Defs
import Mathlib.Algebra.Order.BigOperators.Group.Finset
import Mathlib.Data.List.Forall2

/-!
# Separate runs

Runs of one fleet over a link whose answers are settled by the bodies of the requests do not touch
one another.  In whatever order they are taken on, each ends as it does alone, and the link is told
the requests that it would be told by them one after another.
-/

namespace Courier

variable {σ : Type} {terms : Terms} {link : Link σ} {s : σ} {answer : Bytes → Step}
  {errands : List Errand} {fleet next last : Fleet σ} {count index : Nat} {errand : Errand}
  {seat moved : Seat}

/-! ## Scripted links -/

namespace Script

/-- What is answered to a body when nothing is queued. -/
def answerTo (script : Script) (body : Bytes) : Step :=
  let step := (script.route? body).getD script.fallback
  { step with latency := min step.latency Span.thirtyYears }

theorem call_eq (script : Script) (hqueue : script.queue = []) (request : Request) :
    call request script = (script.answerTo request.body,
      { script with calls := script.calls + 1, requests := script.requests ++ [request] }) := by
  unfold call pick answerTo
  cases script.route? request.body with
  | none => simp [hqueue]
  | some step => rfl

theorem told_eq (script : Script) (hqueue : script.queue = []) (asked : List Request) :
    Link.told call script asked =
      { script with
        calls := script.calls + UInt32.ofNat asked.length
        requests := script.requests ++ asked } := by
  induction asked generalizing script with
  | nil => simp [Link.told]
  | cons request rest ih =>
    have hstep : Link.told call script (request :: rest) =
        Link.told call { script with
          calls := script.calls + 1, requests := script.requests ++ [request] } rest := by
      rw [Link.told, List.foldl_cons, call_eq script hqueue]
      rfl
    have hcount : UInt32.ofNat (rest.length + 1) = 1 + UInt32.ofNat rest.length := by
      rw [Nat.add_comm, UInt32.ofNat_add]
      rfl
    rw [hstep, ih { script with
        calls := script.calls + 1, requests := script.requests ++ [request] } hqueue,
      List.append_assoc, List.singleton_append, List.length_cons, hcount, UInt32.add_assoc]

/-- A script without a queue answers by body. -/
theorem call_answersByBody (script : Script) (hqueue : script.queue = []) :
    Link.AnswersByBody call script script.answerTo := by
  intro asked request
  rw [told_eq script hqueue]
  exact congrArg Prod.fst
    (call_eq { script with
      calls := script.calls + UInt32.ofNat asked.length,
      requests := script.requests ++ asked } hqueue request)

end Script

/-! ## Requests of a fleet -/

def Seat.requests : Seat → List Request
  | .waiting => []
  | .taken run _ => run.requests

theorem Seat.Moves.told_eq {now : Moment} {after : σ}
    (hmoves : seat.Moves terms link now errand s moved after) :
    ∃ asked, moved.requests = seat.requests ++ asked ∧ after = link.told s asked := by
  cases hmoves with
  | start hdue => exact ⟨[], by simp [requests], rfl⟩
  | step hstep => exact (Run.step_moves hstep).told_eq

/-! ## Runs from the start of the clock -/

theorem Errand.ends_start_of_ends_alone {last : Solo σ}
    (hheld : errand.origin + terms.timeout < terms.clockRange.bound ∨
      terms.clockRange.bound ≤ terms.timeout)
    (hends : (errand.alone terms s).Ends terms link last) :
    ∃ first, (Solo.start terms errand.payload errand.cancelAfter s).Ends terms link first ∧
      last.run = first.run.shift errand.origin :=
  Solo.exists_ends_start (Span.isWhole_ceilMillis errand.startAt) hheld hends

namespace Fleet

def requests (fleet : Fleet σ) : List Request :=
  fleet.seats.flatMap fun (_, seat) ↦ seat.requests

/-- What one seat adds to its requests is added to those of the fleet. -/
theorem requests_set_perm {seats : List (Errand × Seat)} {asked : List Request} (moved : Seat)
    (hseat : seats[index]? = some (errand, seat))
    (hmoved : moved.requests = seat.requests ++ asked) :
    ((seats.set index (errand, moved)).flatMap fun (_, seat) ↦ seat.requests).Perm
      ((seats.flatMap fun (_, seat) ↦ seat.requests) ++ asked) := by
  obtain ⟨hindex, helem⟩ := List.getElem?_eq_some_iff.mp hseat
  have hset := (List.set_perm_cons_eraseIdx hindex (errand, moved)).flatMap_right
    fun (_, seat) ↦ seat.requests
  have hall := (List.getElem_cons_eraseIdx_perm hindex).flatMap_right
    fun (_, seat) ↦ seat.requests
  rw [helem] at hall
  refine hset.trans (List.Perm.trans ?_ (hall.append_right asked))
  simp only [List.flatMap_cons, hmoved, List.append_assoc]
  exact List.Perm.append_left _ List.perm_append_comm

/-! ## What every schedule keeps -/

/-- Every seat keeps pace with its run alone, and each action has brought one of them further. -/
def Paced (terms : Terms) (link : Link σ) (s : σ) (count : Nat) (fleet : Fleet σ) : Prop :=
  ∃ paces : Nat → Nat,
    (∀ (index : Nat) (errand : Errand) (seat : Seat),
      fleet.seats[index]? = some (errand, seat) →
        seat.Paced terms link s fleet.now errand (paces index)) ∧
    count ≤ ∑ index ∈ Finset.range fleet.seats.length, paces index

theorem paced_start (terms : Terms) (link : Link σ) (errands : List Errand) (s : σ) :
    (start errands s).Paced terms link s 0 := by
  refine ⟨fun index ↦ if errands[index]?.any fun errand ↦ errand.startAt = 0 then 1 else 0,
    fun index errand seat hseat ↦ ?_, Nat.zero_le _⟩
  simp only [start, List.getElem?_map, Option.map_eq_some_iff, Prod.mk.injEq] at hseat
  obtain ⟨errand, herrand, rfl, rfl⟩ := hseat
  simp only [herrand, Option.any_some, decide_eq_true_eq]
  split
  · next hzero =>
    refine .summoned ?_
    rw [Errand.origin, hzero]
    rfl
  · next hlater => exact .waiting (Nat.pos_of_ne_zero hlater)

/-- It is enough that no seat falls behind and that one comes further. -/
theorem Paced.advance {mover : Nat} (hpaced : fleet.Paced terms link s count)
    (hmover : mover < fleet.seats.length) (hlength : next.seats.length = fleet.seats.length)
    (hkept : ∀ (index : Nat) (errand : Errand) (seat : Seat),
      next.seats[index]? = some (errand, seat) →
        ∃ before, fleet.seats[index]? = some (errand, before) ∧
          ∀ pace, before.Paced terms link s fleet.now errand pace →
            ∃ more, seat.Paced terms link s next.now errand (pace + more) ∧
              (index = mover → 0 < more)) :
    next.Paced terms link s (count + 1) := by
  obtain ⟨paces, hpaces, hcount⟩ := hpaced
  have hmore : ∀ index : Nat, ∃ more,
      (∀ errand seat, next.seats[index]? = some (errand, seat) →
        seat.Paced terms link s next.now errand (paces index + more)) ∧
      (index = mover → 0 < more) := by
    intro index
    cases hseat : next.seats[index]? with
    | none => exact ⟨1, fun _ _ hnone ↦ by contradiction, fun _ ↦ Nat.one_pos⟩
    | some member =>
      obtain ⟨before, hbefore, hpace⟩ := hkept index member.1 member.2 hseat
      obtain ⟨more, hmore, hpositive⟩ := hpace _ (hpaces index member.1 before hbefore)
      refine ⟨more, fun errand seat heq ↦ ?_, hpositive⟩
      cases heq
      exact hmore
  choose more hmore hpositive using hmore
  refine ⟨fun index ↦ paces index + more index, fun index ↦ hmore index, ?_⟩
  rw [Finset.sum_add_distrib, hlength]
  refine Nat.add_le_add hcount ((hpositive mover rfl).trans_le ?_)
  exact Finset.single_le_sum (fun _ _ ↦ Nat.zero_le _) (Finset.mem_range.mpr hmover)

/-- A seat that comes further while the clock stands. -/
theorem Paced.set (hpaced : fleet.Paced terms link s count)
    (hseat : fleet.seats[index]? = some (errand, seat))
    (hmoved : ∀ pace, seat.Paced terms link s fleet.now errand pace →
      moved.Paced terms link s fleet.now errand (pace + 1)) (t : σ) :
    Paced terms link s (count + 1)
      ⟨fleet.now, fleet.seats.set index (errand, moved), t⟩ := by
  have hindex := (List.getElem?_eq_some_iff.mp hseat).1
  refine hpaced.advance hindex List.length_set fun other sender found hfound ↦ ?_
  rcases eq_or_ne index other with rfl | hother
  · rw [List.getElem?_set_self hindex] at hfound
    cases hfound
    exact ⟨seat, hseat, fun pace hpace ↦ ⟨1, hmoved pace hpace, fun _ ↦ Nat.one_pos⟩⟩
  · rw [List.getElem?_set_ne hother] at hfound
    exact ⟨found, hfound, fun pace hpace ↦ ⟨0, hpace, fun heq ↦ absurd heq.symm hother⟩⟩

/-- All that a schedule of a number of actions keeps. -/
structure Keeps (terms : Terms) (link : Link σ) (s : σ) (errands : List Errand) (count : Nat)
    (fleet : Fleet σ) : Prop where
  whole : Span.IsWhole fleet.now
  errands : fleet.seats.map Prod.fst = errands
  told : ∃ asked, fleet.link = link.told s asked ∧ asked.Perm fleet.requests
  paced : fleet.Paced terms link s count

theorem keeps_start (terms : Terms) (link : Link σ) (errands : List Errand) (s : σ) :
    Keeps terms link s errands 0 (start errands s) where
  whole := Span.isWhole_zero
  errands := by simp [start, Function.comp_def]
  told := ⟨[], rfl, by simp [requests, start, Seat.requests]⟩
  paced := paced_start terms link errands s

theorem map_fst_set {seats : List (Errand × Seat)} (hseat : seats[index]? = some (errand, seat)) :
    (seats.set index (errand, moved)).map Prod.fst = seats.map Prod.fst := by
  have hindex := (List.getElem?_eq_some_iff.mp hseat).1
  refine List.ext_getElem? fun other ↦ ?_
  rcases eq_or_ne index other with rfl | hother
  · have hmapped : index < (seats.map Prod.fst).length := by rwa [List.length_map]
    rw [List.map_set, List.getElem?_set_self hmapped, List.getElem?_map, hseat, Option.map_some]
  · simp [List.getElem?_set_ne hother]

theorem Keeps.act {action : Action} (hanswers : link.AnswersByBody s answer)
    (hkeeps : fleet.Keeps terms link s errands count)
    (hact : fleet.Acts terms link action next) : next.Keeps terms link s errands (count + 1) := by
  obtain ⟨asked, hlink, hasked⟩ := hkeeps.told
  cases hact with
  | @move index errand seat moved after hseat hmoves =>
    rw [hlink] at hmoves
    obtain ⟨more, hrequests, rfl⟩ := hmoves.told_eq
    exact {
      whole := hkeeps.whole
      errands := (map_fst_set hseat).trans hkeeps.errands
      told := ⟨asked ++ more, (Link.told_append asked more).symm,
        (hasked.append_right more).trans (requests_set_perm moved hseat hrequests).symm⟩
      paced := hkeeps.paced.set hseat
        (fun _ hpace ↦ hpace.move hanswers hkeeps.whole hmoves) _ }
  | @fire index errand run token hseat hawaits hearly hdue =>
    have hrequests := requests_set_perm (.taken run token.fire) hseat
      (List.append_nil _).symm
    rw [List.append_nil] at hrequests
    exact {
      whole := hkeeps.whole
      errands := (map_fst_set hseat).trans hkeeps.errands
      told := ⟨asked, hlink, hasked.trans hrequests.symm⟩
      paced := hkeeps.paced.set hseat (fun _ hpace ↦ hpace.fire hawaits hearly hdue) _ }
  | @tick moment hrests hnext hlater =>
    obtain ⟨⟨first, hfirst, hmoment⟩, hleast⟩ := nextMoment_spec hnext
    obtain ⟨⟨errand, seat⟩, hmem, hfirst⟩ := List.mem_flatMap.mp hfirst
    obtain ⟨mover, hmover⟩ := List.getElem?_of_mem hmem
    refine ⟨isWhole_nextMoment hnext, hkeeps.errands, ⟨asked, hlink, hasked⟩, ?_⟩
    refine hkeeps.paced.advance (List.getElem?_eq_some_iff.mp hmover).1 rfl ?_
    intro index other found hfound
    refine ⟨found, hfound, fun pace hpace ↦ ?_⟩
    have hown : ∀ alarm ∈ found.alarms other, moment ≤ Span.ceilMillis alarm := fun alarm halarm ↦
      hleast alarm (List.mem_flatMap.mpr ⟨(other, found), List.mem_of_getElem? hfound, halarm⟩)
    obtain ⟨more, hmore, hpositive⟩ :=
      hpace.tick (hrests index other found hfound) (isWhole_nextMoment hnext) hlater hown
    refine ⟨more, hmore, ?_⟩
    rintro rfl
    cases hfound.symm.trans hmover
    exact hpositive first hfirst hmoment

theorem keeps_perform (hanswers : link.AnswersByBody s answer) {actions : List Action}
    (hperform : (start errands s).perform terms link actions = some fleet) :
    fleet.Keeps terms link s errands actions.length := by
  have hkeeps := perform_induction (motive := Keeps terms link s errands)
    (fun _ _ _ _ hact hkeeps ↦ hkeeps.act hanswers hact) hperform
    (keeps_start terms link errands s)
  rwa [Nat.zero_add] at hkeeps

/-! ## Ends -/

theorem Keeps.getElem?_errands (hkeeps : fleet.Keeps terms link s errands count)
    (hseat : fleet.seats[index]? = some (errand, seat)) : errands[index]? = some errand := by
  rw [← hkeeps.errands, List.getElem?_map, hseat, Option.map_some]

/-- The run of an errand alone when it is over, with what its link has been told. -/
def Finished (terms : Terms) (link : Link σ) (s : σ) (errand : Errand) (last : Solo σ) : Prop :=
  (errand.alone terms s).Ends terms link last ∧ last.link = link.told s last.run.requests

theorem finished_of_ends {last : Solo σ} (hends : (errand.alone terms s).Ends terms link last) :
    Finished terms link s errand last := by
  obtain ⟨enough, hlast⟩ := id hends
  obtain ⟨rfl, _⟩ := Solo.finish?_eq_some_iff.mp (hlast enough le_rfl)
  exact ⟨hends, errand.link_alone_after enough⟩

theorem Keeps.ends (hkeeps : fleet.Keeps terms link s errands count) {run : Run} {token : Token}
    (hseat : fleet.seats[index]? = some (errand, .taken run token)) (hover : run.isOver = true) :
    ∃ last, Finished terms link s errand last ∧ last.run = run := by
  obtain ⟨paces, hpaces, _⟩ := hkeeps.paced
  obtain ⟨last, hends, hrun⟩ := (hpaces index errand _ hseat).ends hover
  exact ⟨last, finished_of_ends hends, hrun⟩

/-- The runs of a fleet at rest, each with its errand. -/
theorem Keeps.exists_lasts (hkeeps : fleet.Keeps terms link s errands count)
    (hrest : fleet.AtRest terms link) :
    ∃ lasts, List.Forall₂ (Finished terms link s) errands lasts ∧
      fleet.runs = lasts.map Solo.run ∧
      fleet.requests = lasts.flatMap fun last ↦ last.run.requests := by
  have hends : ∀ member ∈ fleet.seats, ∃ last : Solo σ,
      Finished terms link s member.1 last ∧ ∃ token, member.2 = .taken last.run token := by
    rintro ⟨errand, seat⟩ hmem
    obtain ⟨index, hseat⟩ := List.getElem?_of_mem hmem
    obtain ⟨run, token, rfl, hover⟩ := hrest.isOver hseat
    obtain ⟨last, hlast, rfl⟩ := hkeeps.ends hseat hover
    exact ⟨last, hlast, token, rfl⟩
  rw [← hkeeps.errands]
  unfold runs requests
  generalize fleet.seats = seats at hends
  induction seats with
  | nil => exact ⟨[], .nil, rfl, rfl⟩
  | cons member rest ih =>
    obtain ⟨lasts, hall, hruns, hrequests⟩ := ih fun member hmem ↦
      hends member (List.mem_cons_of_mem _ hmem)
    obtain ⟨errand, seat⟩ := member
    obtain ⟨last, hlast, token, rfl⟩ := hends (errand, seat) List.mem_cons_self
    exact ⟨last :: lasts, .cons hlast hall, congrArg (last.run :: ·) hruns,
      congrArg (last.run.requests ++ ·) hrequests⟩

/-- Schedules are bounded when the runs alone are. -/
theorem Keeps.count_le (hkeeps : fleet.Keeps terms link s errands count) {fuel : Nat}
    (hover : ∀ errand ∈ errands, ((errand.alone terms s).finish? terms link fuel).isSome) :
    count ≤ errands.length * (fuel + 2) := by
  obtain ⟨paces, hpaces, hcount⟩ := hkeeps.paced
  have hlength : fleet.seats.length = errands.length := by
    rw [← hkeeps.errands, List.length_map]
  have hpace : ∀ index ∈ Finset.range fleet.seats.length, paces index ≤ fuel + 2 := by
    intro index hindex
    obtain ⟨⟨errand, seat⟩, hseat⟩ : ∃ member, fleet.seats[index]? = some member :=
      ⟨_, List.getElem?_eq_getElem (Finset.mem_range.mp hindex)⟩
    have herrand := hover errand (List.mem_of_getElem? (hkeeps.getElem?_errands hseat))
    obtain ⟨last, hlast⟩ := Option.isSome_iff_exists.mp herrand
    obtain ⟨rfl, hend⟩ := Solo.finish?_eq_some_iff.mp hlast
    exact (hpaces index errand seat hseat).le hend
  have hsum := Finset.sum_le_card_nsmul _ _ _ hpace
  rw [Finset.card_range, hlength, smul_eq_mul] at hsum
  rw [hlength] at hcount
  exact hcount.trans hsum

/-- The fixed order of actions comes to rest when the runs alone are bounded. -/
theorem exists_finish? (hanswers : link.AnswersByBody s answer) {fuel : Nat}
    (hover : ∀ errand ∈ errands, ((errand.alone terms s).finish? terms link fuel).isSome) :
    ∃ last, (start errands s).finish? terms link (errands.length * (fuel + 2) + 1) = some last := by
  refine exists_finish?_of_bounded fun actions last hperform ↦ ?_
  exact Nat.lt_succ_of_le ((keeps_perform hanswers hperform).count_le hover)

/-- Over a link that answers by body, every run that is over has ended as it does alone from the
same moment, and as it does from the start of the clock, so much earlier.  A fleet that rests has
told its link what the runs alone tell theirs, and fleets come to rest in every order of their
actions. -/
theorem runs_end_as_alone (terms : Terms) (link : Link σ) (answer : Bytes → Step) (s : σ)
    (errands : List Errand) (actions : List Action) (fleet : Fleet σ)
    (hanswers : link.AnswersByBody s answer)
    (hperform : (start errands s).perform terms link actions = some fleet) :
    (∀ (index : Nat) (errand : Errand) (run : Run) (token : Token),
      fleet.seats[index]? = some (errand, .taken run token) →
        run.isOver = true → errands[index]? = some errand ∧
        (∃ last, Finished terms link s errand last ∧ last.run = run) ∧
        (errand.origin + terms.timeout < terms.clockRange.bound ∨
            terms.clockRange.bound ≤ terms.timeout →
          ∃ last, (Solo.start terms errand.payload errand.cancelAfter s).Ends terms link last ∧
            ∀ id clock, run.report? id clock =
              last.run.report? id fun moment ↦ clock (errand.origin + moment))) ∧
      (fleet.AtRest terms link → ∃ lasts,
        List.Forall₂ (Finished terms link s) errands lasts ∧
          fleet.runs = lasts.map Solo.run ∧
          ∃ asked, fleet.link = link.told s asked ∧
            asked.Perm (lasts.flatMap fun last ↦ last.run.requests)) ∧
      ∀ fuel, (∀ errand ∈ errands, ((errand.alone terms s).finish? terms link fuel).isSome) →
        actions.length ≤ errands.length * (fuel + 2) := by
  have hkeeps := keeps_perform hanswers hperform
  refine ⟨fun index errand run token hseat hover ↦ ?_, fun hrest ↦ ?_, fun fuel ↦ hkeeps.count_le⟩
  · obtain ⟨last, hlast, rfl⟩ := hkeeps.ends hseat hover
    refine ⟨hkeeps.getElem?_errands hseat, ⟨last, hlast, rfl⟩, fun hheld ↦ ?_⟩
    obtain ⟨first, hfirst, hshift⟩ := Errand.ends_start_of_ends_alone hheld hlast.1
    refine ⟨first, hfirst, fun id clock ↦ ?_⟩
    rw [hshift, Run.report?_shift]
  · obtain ⟨lasts, hends, hruns, hrequests⟩ := hkeeps.exists_lasts hrest
    obtain ⟨asked, hlink, hasked⟩ := hkeeps.told
    exact ⟨lasts, hends, hruns, asked, hlink, hrequests ▸ hasked⟩

/-- Tries twice, a tenth of a second apart. -/
def twice : Terms where
  target := ""
  timeout := Span.ofSeconds 30
  decide := fun state ↦ if state.number < 2 then .retry (Span.ofMillis 100) "" else .stop ""
  attemptId := fun k ↦ ⟨Ulid.ofNat k⟩
  clockRange := .usual

/-- Is busy for one body and slow for all others. -/
def routed : Script where
  routes := [("1".toUTF8.toList, ⟨.ok (.httpFailure 503 "busy".toUTF8.toList), Span.ofMillis 5⟩)]
  queue := []
  fallback := ⟨.ok (.success 200 []), Span.ofMillis 20⟩
  requests := []

/-- The second starts during the first and is cancelled in its call. -/
def pair : List Errand :=
  [⟨"\x7b\"data\":1\x7d".toUTF8.toList, 0, none⟩,
    ⟨"\x7b\"data\":2\x7d".toUTF8.toList, Span.ofMillis 3, some (Span.ofMillis 10)⟩]

theorem runs_end_as_alone_routed :
    Link.AnswersByBody Script.call routed routed.answerTo ∧ ∃ actions fleet lasts,
      (start pair routed).perform twice Script.call actions = some fleet ∧
        fleet.AtRest twice Script.call ∧
        List.Forall₂ (Finished twice Script.call routed) pair lasts ∧
        fleet.runs = lasts.map Solo.run ∧
        fleet.link.requests.Perm (lasts.flatMap fun last ↦ last.run.requests) ∧
        fleet.link.requests.map Request.body =
          ["1", "2", "1"].map fun text ↦ text.toUTF8.toList := by
  have hanswers : Link.AnswersByBody Script.call routed routed.answerTo :=
    Script.call_answersByBody routed rfl
  have hbodies : (((start pair routed).finish? twice Script.call 40).map fun fleet ↦
      fleet.link.requests.map Request.body) =
        some (["1", "2", "1"].map fun text ↦ text.toUTF8.toList) := by decide +kernel
  obtain ⟨fleet, hfinish, hbodies⟩ := Option.map_eq_some_iff.mp hbodies
  obtain ⟨⟨actions, hperform⟩, hrest⟩ := exists_perform_of_finish? hfinish
  obtain ⟨_, hresting, _⟩ := runs_end_as_alone twice Script.call routed.answerTo routed pair actions
    fleet hanswers hperform
  obtain ⟨lasts, hends, hruns, asked, hlink, hasked⟩ := hresting hrest
  refine ⟨hanswers, actions, fleet, lasts, hperform, hrest, hends, hruns, ?_, hbodies⟩
  have htold : asked = fleet.link.requests := by
    rw [hlink, Script.told_eq routed rfl]
    rfl
  rwa [← htold]

end Fleet

end Courier
