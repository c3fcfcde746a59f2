/-
Three ways to read the order of the queue.

The order shows in a look at the queue, in the answer to a read of the queue, and in what claims
come away with.  All three go along the snapshot: a peek is the front of it, a read lists the
snapshot or a peek with the exact number of cues (`listing`), and a stretch of claims takes the
snapshot apart from the front.  `queue_readings_agree` puts them side by side for every queue that a
run of calls can lead to.
-/
import ShowControl.Proofs.Cue.Claims
import ShowControl.Proofs.Http.HandOut
import ShowControl.Proofs.Http.Query

namespace ShowControl

namespace Http

/-- The answer to a read of the queue that lists these cues and gives their exact number. -/
def listing (cues : List Cue) (h : cues.length < 2 ^ 64) : Response :=
  (Response.json 200
    (.object [("queue", .array (cues.map Cue.json)), ("count", .nat cues.length h)])).shared

lemma shared_queueReport {cues : List Cue} (h : cues.length < 2 ^ 64) :
    (Response.json 200 (queueReport cues)).shared = listing cues h := by
  rw [queueReport, listing, Json.nat_eq_count]

/-- The request reads the first `n` cues of the queue. -/
def Request.ReadsFirst (r : Request) (n : ℕ) : Prop :=
  r.Asks .get .queue ∧ Query.limit r.target.query = .ok (some n)

/-- The request reads the whole queue. -/
def Request.ReadsAll (r : Request) : Prop :=
  r.Asks .get .queue ∧ Query.limit r.target.query = .ok none

/-- The plain way to read the first `n` cues. -/
lemma readsFirst_of_target {r : Request} {n : ℕ} (h : n < 2 ^ 64) (hmethod : r.method = .get)
    (htarget : r.target = Target.ofText ("/queue?limit=".toList ++ Number.natText n)) :
    r.ReadsFirst n := by
  rw [Target.ofText_limit] at htarget
  refine ⟨⟨hmethod, ?_⟩, ?_⟩
  · rw [htarget]
    show Endpoint.at? "/queue".toList = some .queue
    decide
  · rw [htarget]
    exact Query.limit_limitQuery h

/-- A read that does not name a limit reads the whole queue. -/
lemma readsAll_of_forall_ne {r : Request} (hasks : r.Asks .get .queue)
    (h : ∀ p ∈ Query.pairs r.target.query, p.1 ≠ "limit".toList) : r.ReadsAll :=
  ⟨hasks, Query.limit_of_forall_ne h⟩

section Answers

variable (setup : Setup) (d : Desk) (o : Occasion) {r : Request}

lemma handle_readsFirst {n : ℕ} (hreads : r.ReadsFirst n)
    (h : (d.registry.peek n).length < 2 ^ 64) :
    handle setup d o r = ⟨listing (d.registry.peek n) h, d, []⟩ := by
  rw [handle_queue setup d o hreads.1, readQueue, hreads.2]
  simp only [shared_queueReport h]

lemma handle_readsAll (hreads : r.ReadsAll) (h : d.registry.snapshot.length < 2 ^ 64) :
    handle setup d o r = ⟨listing d.registry.snapshot h, d, []⟩ := by
  rw [handle_queue setup d o hreads.1, readQueue, hreads.2]
  simp only [shared_queueReport h]

end Answers

/-- **The readings of the order agree.**  After every run of calls:
* a peek for `n` cues is the front of the snapshot, all of it when no more are pending;
* a read of the first `n` cues lists that peek with its exact number, and changes nothing;
* such a read is what `GET /queue?limit=n` asks for, for every `n` of 64 bits;
* a read that names no limit lists the snapshot with the exact number of pending cues, as long as
  fewer than 2^64 cues have arrived, and changes nothing;
* in a stretch without arrivals `n` claims come away with the cues of the peek for `n`, in that
  order, and with nothing from then on, and what is left is the snapshot without them. -/
theorem queue_readings_agree (calls : List Registry.Call) :
    let q := Registry.after calls
    (∀ n, q.peek n = q.snapshot.take n ∧ (q.size ≤ n → q.peek n = q.snapshot)) ∧
    (∀ setup d o (r : Request) n, d.registry = q → r.ReadsFirst n → n < 2 ^ 64 →
      ∃ h, handle setup d o r = ⟨listing (q.peek n) h, d, []⟩) ∧
    (∀ (r : Request) n, n < 2 ^ 64 → r.method = .get →
      r.target = Target.ofText ("/queue?limit=".toList ++ Number.natText n) → r.ReadsFirst n) ∧
    (∀ setup d o (r : Request), d.registry = q → r.Asks .get .queue →
      (∀ p ∈ Query.pairs r.target.query, p.1 ≠ "limit".toList) →
      Registry.arrivals calls < 2 ^ 64 →
        ∃ h, handle setup d o r = ⟨listing q.snapshot h, d, []⟩ ∧ q.snapshot.length = q.size) ∧
    ∀ more, (∀ call ∈ more, call.isInsert = false) → ∀ n, Registry.claims more = n →
      (Run.outputs Registry.perform q more).filterMap Registry.Answer.claimed? =
          (q.peek n).map some ++ List.replicate (n - q.size) none ∧
        (Registry.after (calls ++ more)).snapshot = q.snapshot.drop n := by
  intro q
  refine ⟨fun n => ⟨q.peek_eq_take n, Registry.peek_of_size_le⟩, ?_,
    fun r n => readsFirst_of_target, ?_, ?_⟩
  · rintro setup d o r n hq hreads hn
    have h : (q.peek n).length < 2 ^ 64 := Nat.lt_of_le_of_lt (q.length_peek_le n) hn
    rw [← hq] at h ⊢
    exact ⟨h, handle_readsFirst setup d o hreads h⟩
  · rintro setup d o r hq hasks hnames hfew
    have hsize : q.size < 2 ^ 64 := Nat.lt_of_le_of_lt (Registry.size_after_le calls) hfew
    have h : q.snapshot.length < 2 ^ 64 := by rwa [Registry.length_snapshot]
    rw [← hq] at h ⊢
    exact ⟨h, handle_readsAll setup d o (readsAll_of_forall_ne hasks hnames) h,
      Registry.length_snapshot⟩
  · rintro more hmore n rfl
    obtain ⟨hclaimed, hleft⟩ := Registry.stretch_of_no_insert hmore q
    have hafter : Registry.after (calls ++ more) = Run.after Registry.perform q more :=
      Run.after_append _ _ _ _
    rw [hclaimed, hafter, hleft, Registry.handedOut, Registry.peek_eq_take,
      Registry.length_snapshot]
    exact ⟨rfl, rfl⟩

/-- Three cues of two priorities: a read of the first two, and four claims with a look between. -/
theorem queue_readings_agree_of_three_cues :
    let calls : List Registry.Call :=
      [.insert ⟨"a"⟩ ⟨3⟩ (.clamped 10) [], .insert ⟨"b"⟩ ⟨2⟩ (.clamped 90) [],
        .insert ⟨"c"⟩ ⟨1⟩ (.clamped 10) []]
    let more : List Registry.Call := [.claim, .claim, .snapshot, .claim, .claim]
    let q := Registry.after calls
    let setup : Setup := ⟨false, ⟨"", "", ""⟩⟩
    let get (target : String) : Request := ⟨.get, Target.ofText target.toList, [], []⟩
    q.snapshot.map (fun c => c.id.text) = ["b", "a", "c"] ∧
      (∃ h, handle setup ⟨q, {}⟩ ⟨⟨4⟩, ⟨"d"⟩, .unreachable⟩ (get "/queue?limit=2") =
        ⟨listing (q.peek 2) h, ⟨q, {}⟩, []⟩) ∧
      (∃ h, handle setup ⟨q, {}⟩ ⟨⟨4⟩, ⟨"d"⟩, .unreachable⟩ (get "/queue?order=desc") =
        ⟨listing q.snapshot h, ⟨q, {}⟩, []⟩ ∧ q.snapshot.length = q.size) ∧
      (Run.outputs Registry.perform q more).filterMap Registry.Answer.claimed? =
        (q.peek 4).map some ++ List.replicate (4 - q.size) none := by
  intro calls more q setup get
  obtain ⟨-, hfirst, htarget, hall, hclaims⟩ := queue_readings_agree calls
  refine ⟨by decide +kernel, ?_, ?_, ?_⟩
  · have htext : (get "/queue?limit=2").target =
        Target.ofText ("/queue?limit=".toList ++ Number.natText 2) := by decide +kernel
    exact hfirst setup ⟨q, {}⟩ _ _ 2 rfl (htarget _ 2 (by decide) rfl htext) (by decide)
  · exact hall setup ⟨q, {}⟩ _ _ rfl (by decide +kernel) (by decide +kernel) (by decide)
  · exact (hclaims more (by decide) 4 rfl).1

end Http

end ShowControl
