import Pwcpp.Advertisement
import Pwcpp.ParameterReaders
import Pwcpp.UnreadableBuffers
import Pwcpp.ParametersPairing
import Pwcpp.BitFields
import Pwcpp.Ump64
import Pwcpp.OscReads
import Pwcpp.IncompleteWrites
import Pwcpp.PublishedShape
import Pwcpp.WritableBuffer
import Pwcpp.AppBuilder
import Pwcpp.BuilderSharing
import Pwcpp.BuilderIndependence
import Pwcpp.MakePropsPod
import Pwcpp.BigEndian
import Pwcpp.OscArguments
import Pwcpp.OscBundles
import Pwcpp.OscCallers
import Pwcpp.OscCanonical
import Pwcpp.OscClient
import Pwcpp.OscOutput
import Pwcpp.OscWriting
import Pwcpp.OscRoundTrip
