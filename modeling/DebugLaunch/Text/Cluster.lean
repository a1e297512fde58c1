import DebugLaunch.Text.CellWidth

/-! Clusters: a character that takes cells, with the marks behind it and all that is joined to it.
A line is never cut inside of one, and no character is lost between two (`text_clusters`). -/
namespace DebugLaunch.Text

/-- Characters that are shown as one, and the cells they take. -/
structure Cluster where
  text : Text
  width : Nat
  deriving DecidableEq, Repr, Inhabited

namespace Cluster

/-- The clusters with characters added to the last one, which comes first; they make a cluster
without cells if there is none. -/
def attach (extra : Text) (wider : Nat) : List Cluster → List Cluster
  | [] => [⟨extra, wider⟩]
  | last :: done => ⟨last.text ++ extra, last.width + wider⟩ :: done

/-- The characters of clusters of which the last one comes first. -/
def textOf (done : List Cluster) : Text := (done.reverse.map Cluster.text).flatten

theorem textOf_attach (extra : Text) (wider : Nat) (done : List Cluster) :
    textOf (attach extra wider done) = textOf done ++ extra := by
  cases done <;> simp [attach, textOf]

end Cluster

/-- Adds the clusters of the rest of a text to those done, of which the last one comes first;
`last` is the last character that took cells, unless it has its emoji style already. -/
def clustersFrom (done : List Cluster) (last : Option Char) : Text → List Cluster
  | [] => done
  | c :: rest =>
    if c = joiner then
      if done.isEmpty then clustersFrom (Cluster.attach [c] 0 done) last rest
      else match rest with
        | [] => Cluster.attach [c] 0 done
        | next :: rest => clustersFrom (Cluster.attach [c, next] 0 done) last rest
    else if c = emojiStyle then
      if last.any isWidened then clustersFrom (Cluster.attach [c] 1 done) none rest
      else clustersFrom (Cluster.attach [c] 0 done) last rest
    else if charWidth c = 0 then clustersFrom (Cluster.attach [c] 0 done) last rest
    else clustersFrom (⟨[c], charWidth c⟩ :: done) (some c) rest

/-- The clusters of a text. -/
def clusters (text : Text) : List Cluster := (clustersFrom [] none text).reverse

theorem textOf_clustersFrom (done : List Cluster) (last : Option Char) (text : Text) :
    Cluster.textOf (clustersFrom done last text) = Cluster.textOf done ++ text := by
  fun_induction clustersFrom done last text
  all_goals simp_all [Cluster.textOf_attach]
  simp [Cluster.textOf]

/-- A text is what its clusters hold, in order. -/
theorem text_clusters (text : Text) : ((clusters text).map Cluster.text).flatten = text := by
  simpa [clusters, Cluster.textOf] using textOf_clustersFrom [] none text

end DebugLaunch.Text
