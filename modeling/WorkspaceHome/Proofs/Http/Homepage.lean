import WorkspaceHome.Proofs.Http.Serve
import WorkspaceHome.Proofs.ReleaseNotes.Newsroom

/-!
# Requests for the homepage

A request for the homepage is a `GET` that reaches its view and brings an id that can be sent back
(`Request.IsForHomepage`). A homepage that is built is the response (`outcome_serve_homepage`), and
the request does to the newsroom what the homepage does (`newsroom_serve_homepage`).
-/

namespace WorkspaceHome.Http

open Service

/-- A request for the homepage in an accepted form, with an id that can be sent back. -/
structure Request.IsForHomepage (r : Request) : Prop where
  reaches : r.reaches = some .homepage
  method : r.method.map Char.toUpper = "GET"
  id : r.id.toList.any HeaderValue.endsLine = false

variable {r : Request} {u : User} {s t : Site}

theorem sent_ok {value : String} (h : value.toList.any HeaderValue.endsLine = false) :
    ∃ sent, HeaderValue.sent value = .ok sent := by
  unfold HeaderValue.sent
  dsimp only
  rw [if_neg (by rw [h]; exact Bool.false_ne_true)]
  split_ifs <;> exact ⟨_, rfl⟩

/-- **A homepage that is built is the response** to the request for it. -/
theorem outcome_serve_homepage (h : r.reaches = some .homepage) (hviewer : r.viewer = .user u)
    {id : String} (hid : HeaderValue.sent r.id = .ok id) {homepage : Homepage}
    (hbuilt : ((Homepage.build (.user u) none).exec s).1 = .ok homepage) :
    ((serve r).exec s).1 =
      .ok { respond (r.method.map Char.toUpper) 200 (some homepage.payload) with
        requestId := some id } := by
  have hsame := Homepage.outcome_build_congr (s := { s with context := r.context }) (t := s)
    rfl rfl u none
  rcases hrun : (Homepage.build (.user u) none).exec { s with context := r.context } with
    ⟨outcome, after⟩
  rw [hrun, hbuilt] at hsame
  obtain rfl : outcome = .ok homepage := hsame
  have hview : (view r .homepage).exec { s with context := r.context } =
      (.ok (.ok (200, some homepage.payload)), after) := by
    show (attempt _).exec _ = _
    unfold attempt
    rw [hviewer, exec_bind, exec_tryCatch, exec_bind, exec_bind_ok hrun]
    rfl
  exact outcome_serve h hid hview

/-- **What a request for the homepage does to the newsroom**: what getting the release notes does,
if the workspaces of its user can be shown, and nothing otherwise. -/
theorem newsroom_serve_homepage (h : r.reaches = some .homepage) (hviewer : r.viewer = .user u)
    (s : Site) :
    ((serve r).exec s).2.newsroom =
      match (Homepage.shownTo s.store u.id).1 with
      | .ok _ => ((ReleaseNotes.nodesAt s.settings.releaseNotesUrl).exec s).2.newsroom
      | .error _ => s.newsroom := by
  have hserve := Homepage.fixing_newsroom_mild.serve_of_some (fun _ _ => rfl) h s
  have hview := Frame.homepageView_follows (F := Frame.fixing Site.newsroom) r.viewer
    { s with context := r.context }
  have hbuild := Homepage.newsroom_build u none { s with context := r.context }
  rw [hviewer] at hview
  rw [show view r .homepage = homepageView r.viewer from rfl, hviewer] at hserve
  refine (Eq.trans hserve (Eq.trans hview hbuild)).trans ?_
  cases (Homepage.shownTo s.store u.id).1 with
  | error e => rfl
  | ok groups =>
    exact (ReleaseNotes.seesOnly_nodesAt s.settings.releaseNotesUrl
      { s with context := r.context } s rfl).2

end WorkspaceHome.Http
