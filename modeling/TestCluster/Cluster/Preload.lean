import TestCluster.World.Temporary

/-!
# Preloading — images put into every node of a cluster

    The images are first made present on this machine, one after another. All of them are then
    saved into one archive, a temporary file, which is loaded into one node after another. The
    first failure ends the work and says which image or node it is about.
-/

namespace TestCluster.Cluster

/-- Pulls an image unless it is there. -/
def ensureImage (image : String) : Attempt World.calls Unit := do
  let present : Bool ← World.tryImages (.exists_ image) (.imagePull image)
  if present then pure () else World.tryImages (.pull image) (.imagePull image)

/-- Loads an archive into one node. -/
def loadArchive (cluster archive node : String) : Attempt World.calls Unit :=
  World.tryProvider (.load cluster node archive) (.imageLoad node)

/-- Puts images into nodes of a cluster. -/
def preload (cluster : String) (nodes images : List String) : Attempt World.calls Unit := do
  if images.isEmpty then pure ()
  else do
    images.forM ensureImage
    World.withTemporary "e2e-images-" ".tar" fun archive => do
      World.tryImages (.save images archive) .imageSave
      nodes.forM (loadArchive cluster archive)

end TestCluster.Cluster
