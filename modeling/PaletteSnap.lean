import PaletteSnap.Buckets
import PaletteSnap.Cause
import PaletteSnap.Classification
import PaletteSnap.Cluster
import PaletteSnap.Codec
import PaletteSnap.Codec.Anymap
import PaletteSnap.Codec.Bits
import PaletteSnap.Codec.Bmp
import PaletteSnap.Codec.Bytes
import PaletteSnap.Codec.Checksum
import PaletteSnap.Codec.Deflate
import PaletteSnap.Codec.Gif
import PaletteSnap.Codec.Huffman
import PaletteSnap.Codec.Lzw
import PaletteSnap.Codec.Pixmap
import PaletteSnap.Codec.Png
import PaletteSnap.Codec.Png.Chunk
import PaletteSnap.Codec.Png.Draft
import PaletteSnap.Codec.Png.Filter
import PaletteSnap.Codec.Png.Header
import PaletteSnap.Codec.Png.Interlace
import PaletteSnap.Codec.Samples
import PaletteSnap.Codec.Scaling
import PaletteSnap.Codec.Zlib
import PaletteSnap.Color
import PaletteSnap.Color.Text
import PaletteSnap.Command
import PaletteSnap.Command.Help
import PaletteSnap.Command.Items
import PaletteSnap.Command.Response
import PaletteSnap.Discovery
import PaletteSnap.Encoding
import PaletteSnap.Failure
import PaletteSnap.FileProgram
import PaletteSnap.FileTree
import PaletteSnap.Grid
import PaletteSnap.Hue
import PaletteSnap.ImageFile
import PaletteSnap.ImageLibrary
import PaletteSnap.Job
import PaletteSnap.Json
import PaletteSnap.Json.Reader
import PaletteSnap.Legend
import PaletteSnap.Main
import PaletteSnap.Palette
import PaletteSnap.Path
import PaletteSnap.Proofs.Addressing
import PaletteSnap.Proofs.Annotation
import PaletteSnap.Proofs.Announcements
import PaletteSnap.Proofs.Answers
import PaletteSnap.Proofs.Arguments
import PaletteSnap.Proofs.Assignment
import PaletteSnap.Proofs.Association
import PaletteSnap.Proofs.Averaging
import PaletteSnap.Proofs.Balance
import PaletteSnap.Proofs.BucketOrder
import PaletteSnap.Proofs.CleanImages
import PaletteSnap.Proofs.ColorGrammar
import PaletteSnap.Proofs.Compactness
import PaletteSnap.Proofs.Components
import PaletteSnap.Proofs.Coverage
import PaletteSnap.Proofs.DefaultOutput
import PaletteSnap.Proofs.Dominance
import PaletteSnap.Proofs.DominantChannels
import PaletteSnap.Proofs.Dumps
import PaletteSnap.Proofs.EncodedGrids
import PaletteSnap.Proofs.Files
import PaletteSnap.Proofs.FixedPoint
import PaletteSnap.Proofs.Grouping
import PaletteSnap.Proofs.Jobs
import PaletteSnap.Proofs.JsonTexts
import PaletteSnap.Proofs.LossyText
import PaletteSnap.Proofs.Matching
import PaletteSnap.Proofs.Monotonicity
import PaletteSnap.Proofs.Noise
import PaletteSnap.Proofs.NoiseRemoval
import PaletteSnap.Proofs.Ordering
import PaletteSnap.Proofs.Palette
import PaletteSnap.Proofs.PngFiles
import PaletteSnap.Proofs.Ratchet
import PaletteSnap.Proofs.Reception
import PaletteSnap.Proofs.Recoloring
import PaletteSnap.Proofs.Repetition
import PaletteSnap.Proofs.Rows
import PaletteSnap.Proofs.Separation
import PaletteSnap.Proofs.StandardImages
import PaletteSnap.Proofs.StoredBlocks
import PaletteSnap.Proofs.StoredImages
import PaletteSnap.Proofs.Trimming
import PaletteSnap.Proofs.TrueMean
import PaletteSnap.Raster
import PaletteSnap.Report
import PaletteSnap.Settings
import PaletteSnap.Settings.Document
import PaletteSnap.Snapper
import PaletteSnap.Snapper.Error
import PaletteSnap.Snapper.Event
import PaletteSnap.Text.Blank
import PaletteSnap.Text.Hex
import PaletteSnap.Text.Number
import PaletteSnap.Text.Quoted
import PaletteSnap.Text.Utf8
import PaletteSnap.Yaml.Cursor
import PaletteSnap.Yaml.Document
import PaletteSnap.Yaml.Layout
import PaletteSnap.Yaml.Node
import PaletteSnap.Yaml.Scalar
import PaletteSnap.Yaml.Tag
import PaletteSnap.Yaml.Token
