import Classpath.Archive.Pack
import Classpath.ClassFile.Written
import Classpath.Main
import Classpath.Proofs.AnnotationQueries
import Classpath.Proofs.ArchiveContent
import Classpath.Proofs.Confinement
import Classpath.Proofs.Containment
import Classpath.Proofs.DirectoryContent
import Classpath.Proofs.Handles
import Classpath.Proofs.History
import Classpath.Proofs.Holdings
import Classpath.Proofs.Implementers
import Classpath.Proofs.IndexOutcome
import Classpath.Proofs.OneType
import Classpath.Proofs.Overrides
import Classpath.Proofs.Repetition
import Classpath.Proofs.Superinterfaces
import Classpath.Proofs.TextCoding
import Classpath.Proofs.Reading
import Classpath.Proofs.Writing
import Classpath.Proofs.ResourceNames
import Classpath.Proofs.Restriction
import Classpath.Proofs.RoundTrip
import Classpath.Proofs.Widening
import Classpath.Proofs.Climbing
import Classpath.Proofs.FieldAnnotations
import Classpath.Proofs.TypeQueries
import Classpath.Proofs.VisibleMethods
import Classpath.Proofs.LocalPaths
import Classpath.Proofs.Signatures
